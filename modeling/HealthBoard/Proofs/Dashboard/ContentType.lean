/-
What a request to report says about its body.

A request that does not announce a body is one without a body, whatever bytes come with it.  One
that announces something else than JSON is not: it is refused, and its body is not looked at.

Not every content type that names JSON is taken for JSON, since there may be something wrong with
its parameters.  What is shown here is the other direction, which is what a refusal hangs on:
nothing is taken for JSON whose type does not name it (`namesJson_of_saysJson`).
-/
import HealthBoard.Proofs.Dashboard.Report

namespace HealthBoard.Dashboard

/-- What stands before the parameters of a content type, in lower case. -/
def essence (contentType : String) : List Char :=
  (contentType.toList.takeWhile (· != ';')).map Char.toLower

/-- The content type names JSON: as an application's type, perhaps with something after a plus sign,
or as what an application's type is written in, after a plus sign. -/
inductive NamesJson (contentType : String) : Prop
  | plain (h : essence contentType = "application/json".toList)
  | extended {suffix : List Char} (h : essence contentType = "application/json+".toList ++ suffix)
  | suffixed {base : List Char}
      (h : essence contentType = "application/".toList ++ base ++ "+json".toList)

/-! ### Content types that are taken for JSON -/

/-- Parameters begin where a word cannot go on. -/
theorem ne_semicolon_of_isTokenChar {c : Char} (h : isTokenChar c = true) : c ≠ ';' := by
  rintro rfl
  revert h
  decide

/-- What comes before the first plus sign from the end, and what comes after it. -/
theorem splitSuffix_cases (subtype : List Char) :
    splitSuffix subtype = (subtype, none) ∨
      ∃ base suffix, splitSuffix subtype = (base, some suffix) ∧
        subtype = base ++ '+' :: suffix := by
  have hparts : (subtype.reverse.dropWhile (· != '+')).reverse
      ++ (subtype.reverse.takeWhile (· != '+')).reverse = subtype := by
    rw [← List.reverse_append, List.takeWhile_append_dropWhile, List.reverse_reverse]
  have hbase : subtype.take
        (subtype.length - (subtype.reverse.takeWhile (· != '+')).reverse.length)
      = (subtype.reverse.dropWhile (· != '+')).reverse := by
    have hlength := congrArg List.length hparts
    rw [List.length_append] at hlength
    exact (congrArg (List.take _) hparts).symm.trans (List.take_left' (by omega))
  unfold splitSuffix
  simp only [hbase]
  split
  · exact .inl rfl
  · rename_i hlong
    refine .inr ⟨_, _, rfl, ?_⟩
    cases hrest : subtype.reverse.dropWhile (· != '+') with
    | nil =>
        rw [hrest] at hlong
        exact absurd (Nat.zero_le 1) hlong
    | cons c rest =>
        have hplus : c = '+' := by
          have hhead := List.head?_dropWhile_not (· != '+') subtype.reverse
          rw [hrest] at hhead
          simpa using hhead
        rw [hplus, List.reverse_cons, List.dropLast_concat]
        rw [hrest, hplus] at hparts
        exact hparts.symm.trans (by simp)

/-- The parameters of a content type are no part of its essence. -/
theorem essence_eq {contentType : String} {kind subtype parameters : List Char}
    (htype : contentType.toList = kind ++ '/' :: subtype ++ parameters)
    (hkind : ∀ c ∈ kind, isTokenChar c = true) (hsubtype : ∀ c ∈ subtype, isTokenChar c = true)
    (hparameters : ∀ c ∈ parameters.head?, c = ';') :
    essence contentType = kind.map Char.toLower ++ '/' :: subtype.map Char.toLower := by
  have hnames : ∀ c ∈ kind ++ '/' :: subtype, (c != ';') = true := by
    intro c hc
    rw [bne_iff_ne]
    rcases List.mem_append.mp hc with hc | hc
    · exact ne_semicolon_of_isTokenChar (hkind c hc)
    · rcases List.mem_cons.mp hc with rfl | hc
      · decide
      · exact ne_semicolon_of_isTokenChar (hsubtype c hc)
  have hend : parameters.takeWhile (· != ';') = [] := by
    cases parameters with
    | nil => rfl
    | cons c rest => simp [hparameters c rfl]
  rw [essence, htype, List.takeWhile_append_of_pos hnames, hend]
  simp

/-- A content type that is taken for JSON is an application's, of a subtype that is JSON with or
without its suffix, or has JSON for a suffix. -/
theorem exists_subtype_of_saysJson {contentType : String} (h : saysJson contentType = true) :
    ∃ subtype, essence contentType = "application/".toList ++ subtype.map Char.toLower ∧
      ((splitSuffix subtype).1.map Char.toLower = "json".toList ∨
        ∃ suffix, (splitSuffix subtype).2 = some suffix ∧
          suffix.map Char.toLower = "json".toList) := by
  have hlowered : ∀ {cs : List Char} {name : String},
      String.ofList (cs.map Char.toLower) = name → cs.map Char.toLower = name.toList := by
    rintro cs _ rfl
    exact String.toList_ofList.symm
  unfold saysJson at h
  simp only at h
  split at h
  · rename_i rest hrest
    simp only [Bool.and_eq_true, Bool.or_eq_true, beq_iff_eq] at h
    obtain ⟨⟨⟨-, hwell⟩, hkind⟩, hjson⟩ := h
    have hends : ∀ c ∈ (rest.dropWhile isTokenChar).head?, c = ';' := by
      intro c hc
      split at hwell
      · rename_i hnone
        rw [hnone] at hc
        cases hc
      · rename_i hsome
        rw [hsome] at hc
        cases hc
        rfl
      · cases hwell
    have htype : contentType.toList = contentType.toList.takeWhile isTokenChar
        ++ '/' :: rest.takeWhile isTokenChar ++ rest.dropWhile isTokenChar := by
      rw [List.append_assoc, List.cons_append, List.takeWhile_append_dropWhile, ← hrest,
        List.takeWhile_append_dropWhile]
    refine ⟨rest.takeWhile isTokenChar, ?_, hjson.imp hlowered ?_⟩
    · rw [essence_eq htype (List.all_eq_true.mp List.all_takeWhile)
        (List.all_eq_true.mp List.all_takeWhile) hends, hlowered hkind]
      rfl
    · intro hsuffix
      obtain ⟨suffix, hsplit, hname⟩ := Option.map_eq_some_iff.mp hsuffix
      exact ⟨suffix, hsplit, hlowered hname⟩
  · cases h

/-- **Only content types that name JSON are taken for JSON.** -/
theorem namesJson_of_saysJson {contentType : String} (h : saysJson contentType = true) :
    NamesJson contentType := by
  obtain ⟨subtype, hessence, hjson⟩ := exists_subtype_of_saysJson h
  rcases splitSuffix_cases subtype with hsplit | ⟨base, suffix, hsplit, rfl⟩
  · rw [hsplit] at hjson
    rcases hjson with hjson | ⟨suffix, hnone, -⟩
    · rw [hjson] at hessence
      exact .plain hessence
    · cases hnone
  · rw [hsplit] at hjson
    rw [List.map_append, List.map_cons] at hessence
    rcases hjson with hjson | ⟨_, heq, hjson⟩
    · rw [hjson] at hessence
      exact .extended hessence
    · cases heq
      rw [hjson] at hessence
      exact @NamesJson.suffixed _ (base.map Char.toLower) (hessence.trans (by simp))

/-! ### Requests without a body, and refused ones -/

/-- The request without a body. -/
def Request.bare (request : Request) : Request := { request with contentType := none, body := [] }

variable {σ : Type} [KeyValueStore σ] {d : Dashboard} {request : Request}

/-- A body of another type is not even read. -/
theorem read_of_not_namesJson {contentType : String}
    (htype : request.contentType = some contentType) (hother : ¬ NamesJson contentType) :
    readReportOrder request.contentType request.body = .error .notJson := by
  have hnot : ¬ saysJson contentType = true := fun h => hother (namesJson_of_saysJson h)
  rw [htype, readReportOrder, if_neg hnot]

/--
**Only a body that is not announced is no body.**  Where a machine is reported, a request without a
body is an order that does not insist, and the answer to it is a success.  A request whose body is
not announced, whatever it holds, is answered as it would be without one.  A request whose body is
announced as something else than JSON never is: the caller is told that JSON is expected, and
neither the throttle nor anything else has a part in that.
-/
theorem respond_contentType {r : Reporting} (hasks : AsksReport request)
    (hon : d.reporting = some r) (w : World) (board : Board σ) :
    ((d.respond w request.bare board).1.response.status = 200 ∧
        CallsThrottle r false w board.store (d.respond w request.bare board).1
          (d.respond w request.bare board).2) ∧
      (request.contentType = none →
        d.respond w request board = d.respond w request.bare board) ∧
      ∀ contentType, request.contentType = some contentType → ¬ NamesJson contentType →
        EndsAtBody d request
          ⟨explanation "Expected request with `Content-Type: application/json`", []⟩ board
          (d.respond w request board).2 ∧
        d.respond w request board ≠ d.respond w request.bare board := by
  have hasks' : AsksReport request.bare := hasks
  have hbare := @respond_ordered _ _ _ d w board _ _ hasks' hon (.silently rfl)
  refine ⟨?_, ?_, ?_⟩
  · rw [hbare]
    exact ⟨rfl, rfl, rfl, rfl⟩
  · intro hnone
    rw [hbare, respond_ordered hasks hon (.silently hnone)]
  · intro contentType htype hother
    have hrefused : ∀ (w : World) (board : Board σ), d.respond w request board
        = (⟨explanation "Expected request with `Content-Type: application/json`", []⟩, board) :=
      fun _ _ => respond_refused hasks (read_of_not_namesJson htype hother)
    refine ⟨⟨rfl, by rw [hrefused], hrefused⟩, ?_⟩
    intro heq
    rw [hrefused, hbare] at heq
    have hstatus := congrArg (fun answered => answered.1.response.status) heq
    exact absurd hstatus (show 400 ≠ 200 by decide)

/-- A request to report with a few words that are announced as text. -/
def textRequest : Request :=
  { method := "POST", path := "/v1/fingerprint/report"
    contentType := some "text/plain; charset=utf-8", body := bytesOf "now, please" }

theorem not_namesJson_text : ¬ NamesJson "text/plain; charset=utf-8" := by
  have hessence : essence "text/plain; charset=utf-8" = "text/plain".toList := by decide +kernel
  rintro (h | h | h) <;> rw [hessence] at h <;> exact absurd (List.cons.inj h).1 (by decide)

/-- With the words and without, where they are not announced and where they are. -/
theorem respond_contentType_text :
    AsksReport textRequest ∧ ¬ NamesJson "text/plain; charset=utf-8" ∧
      (reportingDashboard.respond (worldOf .unreachable) { textRequest with contentType := none }
          startBoard
        = reportingDashboard.respond (worldOf .unreachable) textRequest.bare startBoard) ∧
      EndsAtBody reportingDashboard textRequest
        ⟨explanation "Expected request with `Content-Type: application/json`", []⟩ startBoard
        (reportingDashboard.respond (worldOf .unreachable) textRequest startBoard).2 := by
  have hasks : AsksReport textRequest := ⟨rfl, rfl⟩
  have hasks' : AsksReport { textRequest with contentType := none } := hasks
  exact ⟨hasks, not_namesJson_text,
    (respond_contentType hasks' rfl (worldOf .unreachable) startBoard).2.1 rfl,
    ((respond_contentType hasks rfl (worldOf .unreachable) startBoard).2.2 _ rfl
      not_namesJson_text).1⟩

/-- What is announced as text is refused, where without it the machine would be reported. -/
theorem respond_contentType_refuses :
    ¬ NamesJson "text/plain; charset=utf-8" ∧
      (reportingDashboard.respond (worldOf .unreachable) textRequest startBoard).1.response.status
        = 400 ∧
      (reportingDashboard.respond (worldOf .unreachable) textRequest.bare
        startBoard).1.response.status = 200 := by
  have hasks : AsksReport textRequest := ⟨rfl, rfl⟩
  have hasks' : AsksReport textRequest.bare := hasks
  refine ⟨not_namesJson_text, ?_, ?_⟩
  · rw [respond_refused hasks (read_of_not_namesJson rfl not_namesJson_text)]
    rfl
  · rw [respond_ordered hasks' rfl (.silently rfl)]
    rfl

end HealthBoard.Dashboard
