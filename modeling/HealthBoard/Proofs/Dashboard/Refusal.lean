/-
Parameters that are refused.

A place that asks the gateway looks at the parameters first.  If they make no inquiry, the caller is
told what is wrong with them and that is all that happens: `respond_of_unread` says that nothing is
asked and nothing is kept or forgotten.  Together with `Consults.response_eq` this leaves no third
case for a place that reads.
-/
import HealthBoard.Proofs.Dashboard.Display
import HealthBoard.Proofs.Dashboard.WindowAsked

namespace HealthBoard.Dashboard

/-- The caller is told what is wrong. -/
def Explained {α : Type} (x : Except Failure α) : Prop :=
  ∃ message, x = .error (.validation message)

theorem Explained.map {α β : Type} {x : Except Failure α} (h : Explained x) (f : α → β) :
    Explained (x.map f) := by
  obtain ⟨message, rfl⟩ := h
  exact ⟨message, rfl⟩

theorem Explained.bind {α β : Type} {x : Except Failure α} (h : Explained x)
    (next : α → Except Failure β) : Explained (x >>= next) := by
  obtain ⟨message, rfl⟩ := h
  exact ⟨message, rfl⟩

variable {d : Dashboard} {w : World} {raw : Option (List UInt8)}

/-- A query that cannot be read is explained; of any other it is up to what comes next. -/
private theorem explained_read {parameters : List (String × ParameterKind)}
    {next : Query → Except Failure Reply}
    (h : ∀ q, Query.read parameters raw = .ok q → Explained (next q)) :
    Explained ((Query.read parameters raw).mapError refused >>= next) := by
  cases hread : Query.read parameters raw with
  | error fault => exact ⟨fault.message, rfl⟩
  | ok q => exact h q hread

private theorem explained_trend (h : Inquiry.read? w.now raw .trend = none) :
    Explained (d.trend w raw) := by
  refine explained_read fun q hq => ?_
  simp only [Inquiry.read?, hq, Except.toOption] at h
  cases hname : trimmed? (q.text? "model_name") with
  | none => exact ⟨_, rfl⟩
  | some modelName =>
      rcases windowOf_cases q w.now with ⟨window, hwindow⟩ | hwindow
      · simp [hname, hwindow] at h
      · exact Explained.bind hwindow _

private theorem explained_overview {now : Int64} (h : Inquiry.read? now raw .overview = none) :
    Explained (d.overview w raw) := by
  refine explained_read fun q hq => ?_
  simp [Inquiry.read?, hq, Except.toOption] at h

private theorem explained_fingerprints {now : Int64}
    (h : Inquiry.read? now raw .fingerprints = none) : Explained (d.fingerprints w raw) := by
  refine explained_read fun q hq => ?_
  simp [Inquiry.read?, hq, Except.toOption] at h

private theorem explained_duplicates {now : Int64}
    (h : Inquiry.read? now raw .duplicates = none) : Explained (d.duplicates w raw) := by
  refine explained_read fun q hq => ?_
  simp [Inquiry.read?, hq, Except.toOption] at h

private theorem explained_users {now : Int64} (h : Inquiry.read? now raw .users = none) :
    Explained (d.users w raw) := by
  refine explained_read fun q hq => ?_
  simp only [Inquiry.read?, hq, Except.toOption] at h
  cases hid : trimmed? (q.text? "visitor_id") with
  | none => exact ⟨_, rfl⟩
  | some visitorId => simp [hid] at h

/-! ### The answer at a place -/

variable {σ : Type} [KeyValueStore σ] {request : Request} {board : Board σ} {route : Route}

/-- The place asks the gateway for what it shows. -/
def Route.Reads (route : Route) : Prop := route ≠ .health ∧ route ≠ .report

theorem answerAt_of_unread (hroute : route.Reads)
    (h : Inquiry.read? w.now request.query route = none) :
    Explained (d.answerAt w request board route) := by
  cases route with
  | health => exact absurd rfl hroute.1
  | report => exact absurd rfl hroute.2
  | models => cases h
  | trend => exact (explained_trend h).map _
  | overview => exact (explained_overview h).map _
  | fingerprints => exact (explained_fingerprints h).map _
  | duplicates => exact (explained_duplicates h).map _
  | users => exact (explained_users h).map _

/-- An answer without data that tells the caller what is wrong. -/
def explanation (message : String) : Response :=
  { status := 400
    headers := jsonHeaders ++ openHeaders
    body := .json (.obj [("success", .bool false), ("message", .str message), ("data", .null)]) }

end HealthBoard.Dashboard
