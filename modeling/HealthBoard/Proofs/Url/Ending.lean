/-
Where a path ends.

A path is brought into its shortest form, and all sorts of things in front of it can be taken for a
scheme, a host or a segment that leads upwards.  What stands at the end of an address cannot: its
last segment is the last segment of the path, if it is made of nothing that means something else.
So two places that end differently stay two places, whatever the gateway's address is.

Each reader cuts something off in front.  That what is left still has the ending is said by
`suffix_dropWhile` where the ending begins with a character that is not cut off, and else by
comparing two endings of one text.
-/
import HealthBoard.Proofs.Url.Target
import Mathlib.Data.List.DropRight

namespace HealthBoard.Url

/-- A character that means nothing but itself in an address. -/
def isPlainChar (c : Char) : Bool := !isOuterSpace c && !(['/', '\\', '?', '#', ':'].contains c)

/-- A segment that is read and written as it stands. -/
structure IsPlain (segment : List Char) : Prop where
  chars : segment.all isPlainChar = true
  written : percentEncode isPathByte segment = segment
  notAbove : isAbove segment = false
  notHere : isHere segment = false

/-- The text ends in a slash and this segment, and what stands before the slash is plain. -/
def EndsIn (segment text : List Char) : Prop :=
  ∃ c, isPlainChar c = true ∧ c :: '/' :: segment <:+ text

variable {segment text : List Char}

theorem EndsIn.suffix (h : EndsIn segment text) : '/' :: segment <:+ text := by
  obtain ⟨c, -, hends⟩ := h
  exact (List.suffix_cons c _).trans hends

theorem isPlainChar_iff {c : Char} : isPlainChar c = true ↔
    isOuterSpace c = false ∧ c ∉ ['/', '\\', '?', '#', ':'] := by
  simp [isPlainChar]

theorem ne_of_isPlainChar {c sign : Char} (h : isPlainChar c = true)
    (hsign : isPlainChar sign = false) : c ≠ sign := by
  rintro rfl
  rw [h] at hsign
  cases hsign

theorem IsPlain.notMem {sign : Char} (h : IsPlain segment) (hsign : isPlainChar sign = false) :
    sign ∉ segment :=
  fun hmem => ne_of_isPlainChar (List.all_eq_true.mp h.chars sign hmem) hsign rfl

/-! ### What is cut off -/

/-- What does not begin with a character that is cut off is kept. -/
theorem suffix_dropWhile {p : Char → Bool} {c : Char} {rest s : List Char} (hc : p c = false)
    (h : c :: rest <:+ s) : c :: rest <:+ s.dropWhile p := by
  obtain ⟨front, rfl⟩ := h
  rw [List.dropWhile_append]
  split
  · simp [hc]
  · exact List.suffix_append _ _

/-- What ends in a character that is not cut off is kept. -/
theorem suffix_rdropWhile {p : Char → Bool} {ending s : List Char} (hne : ending ≠ [])
    (hp : ∀ c ∈ ending, p c = false) (h : ending <:+ s) : ending <:+ s.rdropWhile p := by
  obtain ⟨front, rfl⟩ := h
  have hkept : (front ++ ending).rdropWhile p = front ++ ending := by
    rw [List.rdropWhile_eq_self_iff]
    intro _
    rw [List.getLast_append_of_ne_nil _ hne, hp _ (List.getLast_mem hne)]
    exact Bool.false_ne_true
  rw [hkept]
  exact List.suffix_append front ending

/-- No space and no line break stands in an ending. -/
theorem IsPlain.not_isOuterSpace {c : Char} (hplain : IsPlain segment) (hc : isPlainChar c = true) :
    ∀ x ∈ c :: '/' :: segment, isOuterSpace x = false := by
  intro x hx
  simp only [List.mem_cons] at hx
  rcases hx with rfl | rfl | hx
  · exact (isPlainChar_iff.mp hc).1
  · decide
  · exact (isPlainChar_iff.mp (List.all_eq_true.mp hplain.chars x hx)).1

/-- So none of it is cut off. -/
theorem EndsIn.significant (hplain : IsPlain segment) (h : EndsIn segment text) :
    EndsIn segment (significant text) := by
  obtain ⟨c, hc, hends⟩ := h
  have hspace := hplain.not_isOuterSpace hc
  have hfront := suffix_dropWhile (hspace c List.mem_cons_self) hends
  have hback := suffix_rdropWhile (List.cons_ne_nil _ _) hspace hfront
  have hkept : (c :: '/' :: segment).filter (fun c => c != '\t' && c != '\n' && c != '\r')
      = c :: '/' :: segment := by
    rw [List.filter_eq_self]
    intro x hx
    have hne : ∀ sign, isOuterSpace sign = true → x ≠ sign := fun sign hsign heq => by
      have hno := hspace x hx
      rw [heq, hsign] at hno
      cases hno
    simp [hne '\t' (by decide), hne '\n' (by decide), hne '\r' (by decide)]
  exact ⟨c, hc, hkept ▸ hback.filter _⟩

/-- A scheme ends before the ending. -/
theorem EndsIn.of_splitScheme? {s scheme rest : List Char} (hplain : IsPlain segment)
    (h : EndsIn segment s) (hscheme : splitScheme? s = some (scheme, rest)) :
    EndsIn segment rest := by
  obtain ⟨c, hc, hends⟩ := h
  have hcolon : ':' :: rest <:+ s := by
    unfold splitScheme? at hscheme
    simp only at hscheme
    split at hscheme
    · split at hscheme
      · split at hscheme
        · rename_i hdrop
          cases hscheme
          exact hdrop ▸ List.dropWhile_suffix _
        · cases hscheme
      · cases hscheme
    · cases hscheme
  have hnot : ':' ∉ c :: '/' :: segment := by
    simp only [List.mem_cons, not_or]
    exact ⟨(ne_of_isPlainChar hc (by decide)).symm, by decide, hplain.notMem (by decide)⟩
  rcases List.suffix_or_suffix_of_suffix hends hcolon with hinside | houtside
  · rcases List.suffix_cons_iff.mp hinside with heq | hrest
    · exact absurd (List.head_eq_of_cons_eq heq) (ne_of_isPlainChar hc (by decide))
    · exact ⟨c, hc, hrest⟩
  · exact absurd (houtside.subset List.mem_cons_self) hnot

/-- Neither slash is what stands before the last one. -/
theorem EndsIn.of_cons {sign : Char} (h : EndsIn segment (sign :: text))
    (hsign : isPlainChar sign = false) : EndsIn segment text := by
  obtain ⟨c, hc, hends⟩ := h
  rcases List.suffix_cons_iff.mp hends with heq | hrest
  · exact absurd (List.head_eq_of_cons_eq heq) (ne_of_isPlainChar hc hsign)
  · exact ⟨c, hc, hrest⟩

/-! ### Paths -/

theorem splitChars_ne_nil (separates : Char → Bool) (s : List Char) :
    splitChars separates s ≠ [] := by
  cases s with
  | nil => simp [splitChars]
  | cons c rest =>
    rw [splitChars]
    split
    · simp
    · split <;> simp

theorem splitChars_append {separates : Char → Bool} {sign : Char} (hsign : separates sign = true)
    (front rest : List Char) : splitChars separates (front ++ sign :: rest)
      = splitChars separates front ++ splitChars separates rest := by
  induction front with
  | nil =>
    show splitChars separates (sign :: rest) = [] :: splitChars separates rest
    rw [splitChars, if_pos hsign]
  | cons c front ih =>
    rw [List.cons_append, splitChars, splitChars, ih]
    split
    · rfl
    · cases hfront : splitChars separates front with
      | nil => exact absurd hfront (splitChars_ne_nil separates front)
      | cons part parts => rfl

theorem splitChars_of_forall {separates : Char → Bool} {s : List Char}
    (h : ∀ c ∈ s, separates c = false) : splitChars separates s = [s] := by
  induction s with
  | nil => rfl
  | cons c rest ih =>
    rw [splitChars, if_neg (by simp [h c List.mem_cons_self]),
      ih fun c hc => h c (List.mem_cons_of_mem _ hc)]

/-- Whoever walks along some segments is at the last one in the end. -/
theorem walk_last (hplain : IsPlain segment) (front : List (List Char)) :
    ∀ walked, ∃ before, walk walked (front ++ [segment]) = segment :: before := by
  induction front with
  | nil =>
    intro walked
    rw [List.nil_append, walk, hplain.notAbove, hplain.notHere]
    exact ⟨walked, rfl⟩
  | cons first rest ih =>
    intro walked
    obtain ⟨second, others, hothers⟩ : ∃ second others, rest ++ [segment] = second :: others := by
      cases rest with
      | nil => exact ⟨segment, [], rfl⟩
      | cons second others => exact ⟨second, others ++ [segment], rfl⟩
    rw [List.cons_append, hothers, walk, ← hothers]
    · split
      · exact ih _
      · split
        · exact ih _
        · exact ih _
    · simp

theorem readPath_suffix (hosts : Bool) (hplain : IsPlain segment) (h : '/' :: segment <:+ text) :
    '/' :: segment <:+ readPath hosts text := by
  obtain ⟨front, rfl⟩ := h
  let separates (c : Char) : Bool := c == '/' || (hosts && c == '\\')
  have hslash : separates '/' = true := rfl
  have hsegment : splitChars separates segment = [segment] := by
    refine splitChars_of_forall fun c hc => ?_
    have hchar := List.all_eq_true.mp hplain.chars c hc
    simp [separates, ne_of_isPlainChar hchar (by decide : isPlainChar '/' = false),
      ne_of_isPlainChar hchar (by decide : isPlainChar '\\' = false)]
  obtain ⟨earlier, hearlier⟩ : ∃ earlier, readPath hosts (front ++ '/' :: segment)
      = (walk [] (earlier ++ [segment])).reverse.flatMap
          fun segment => '/' :: percentEncode isPathByte segment := by
    cases front with
    | nil =>
      refine ⟨[], ?_⟩
      show (walk [] (splitChars separates segment)).reverse.flatMap _ = _
      rw [hsegment]
      rfl
    | cons c front =>
      by_cases hc : separates c = true
      · refine ⟨splitChars separates front, ?_⟩
        show (walk [] (splitChars separates
          (if separates c then front ++ '/' :: segment else _))).reverse.flatMap _ = _
        rw [if_pos hc, splitChars_append hslash, hsegment]
      · refine ⟨splitChars separates (c :: front), ?_⟩
        show (walk [] (splitChars separates
          (if separates c then _ else c :: front ++ '/' :: segment))).reverse.flatMap _ = _
        rw [if_neg hc, splitChars_append hslash, hsegment]
  obtain ⟨before, hbefore⟩ := walk_last hplain earlier []
  rw [hearlier, hbefore, List.reverse_cons, List.flatMap_append, List.flatMap_singleton,
    hplain.written]
  exact List.suffix_append _ _

/-! ### Addresses -/

theorem splitQuery_of_notMem {s : List Char} (hquery : '?' ∉ s) (hfragment : '#' ∉ s) :
    (splitQuery s).1 = s := by
  have hall : ∀ sign, sign ∉ s → s.takeWhile (· != sign) = s := by
    intro sign hsign
    rw [List.takeWhile_eq_self_iff]
    intro c hc
    have hne : c ≠ sign := fun heq => hsign (heq ▸ hc)
    simpa using hne
  have hdrop : s.dropWhile (· != '?') = [] := by
    have happend := List.takeWhile_append_dropWhile (p := (· != '?')) (l := s)
    rw [hall '?' hquery] at happend
    simpa using happend
  simp only [splitQuery, hall '#' hfragment, hdrop]

theorem readHosted_suffix {scheme rest : List Char} {a : Address} (hplain : IsPlain segment)
    (hquery : '?' ∉ rest) (hfragment : '#' ∉ rest) (hends : '/' :: segment <:+ rest)
    (h : readHosted scheme rest = .ok a) : '/' :: segment <:+ a.path := by
  simp only [readHosted] at h
  obtain ⟨authority, -, h⟩ := exists_of_bind_eq_ok h
  simp only [pure, Except.pure, Except.ok.injEq] at h
  subst h
  have hsubset := (List.dropWhile_suffix (l := rest)
    fun c => !endsAuthority (isHostScheme scheme) c).subset
  have hbehind : '/' :: segment
      <:+ rest.dropWhile fun c => !endsAuthority (isHostScheme scheme) c :=
    suffix_dropWhile (by simp [endsAuthority]) hends
  simp only [splitQuery_of_notMem (fun hmem => hquery (hsubset hmem))
    (fun hmem => hfragment (hsubset hmem))]
  split
  · rename_i hempty
    simp only [Bool.and_eq_true, List.isEmpty_iff] at hempty
    rw [hempty.1] at hbehind
    cases List.suffix_nil.mp hbehind
  · exact readPath_suffix _ hplain hbehind

theorem readFile_suffix {scheme rest : List Char} {a : Address} (hplain : IsPlain segment)
    (hquery : '?' ∉ rest) (hfragment : '#' ∉ rest) (hends : EndsIn segment rest)
    (h : readFile scheme rest = .ok a) : '/' :: segment <:+ a.path := by
  have hpath : '/' :: segment <:+ readPath true (splitQuery rest).1 := by
    rw [splitQuery_of_notMem hquery hfragment]
    exact readPath_suffix true hplain hends.suffix
  simp only [readFile] at h
  split at h
  · rename_i first second rest'
    by_cases hslashes : (first == '/' || first == '\\') && (second == '/' || second == '\\')
    · simp only [hslashes, if_true] at h
      have hbehind : '/' :: segment <:+ readPath true
          (splitQuery (rest'.dropWhile fun c => !endsAuthority true c)).1 := by
        simp only [Bool.and_eq_true, Bool.or_eq_true, beq_iff_eq] at hslashes
        have hfirst : isPlainChar first = false := by
          rcases hslashes.1 with rfl | rfl <;> decide
        have hsecond : isPlainChar second = false := by
          rcases hslashes.2 with rfl | rfl <;> decide
        have hrest := (hends.of_cons hfirst).of_cons hsecond
        have hsubset : (rest'.dropWhile fun c => !endsAuthority true c)
            ⊆ first :: second :: rest' :=
          fun _ hc => List.mem_cons_of_mem _
            (List.mem_cons_of_mem _ ((List.dropWhile_suffix _).subset hc))
        rw [splitQuery_of_notMem (fun hmem => hquery (hsubset hmem))
          (fun hmem => hfragment (hsubset hmem))]
        exact readPath_suffix true hplain
          (suffix_dropWhile (by simp [endsAuthority]) hrest.suffix)
      split_ifs at h
      all_goals
        obtain ⟨host, -, h⟩ := exists_of_bind_eq_ok h
        cases h
        exact hbehind
    · simp only [hslashes] at h
      cases h
      exact hpath
  · cases h
    exact hpath

/-- **The last segment of an address is that of its path.** -/
theorem Address.parse_suffix {address : String} {a : Address} (hplain : IsPlain segment)
    (hquery : '?' ∉ address.toList) (hfragment : '#' ∉ address.toList)
    (hends : EndsIn segment address.toList) (h : Address.parse address = .ok a) :
    '/' :: segment <:+ a.path := by
  unfold Address.parse at h
  cases hscheme : splitScheme? (significant address.toList) with
  | none =>
    rw [hscheme] at h
    cases h
  | some parts =>
    obtain ⟨scheme, rest⟩ := parts
    have hrest : EndsIn segment rest := (hends.significant hplain).of_splitScheme? hplain hscheme
    have hsubset : rest ⊆ address.toList := fun c hc =>
      significant_subset _ (splitScheme?_subset hscheme hc)
    have hquery : '?' ∉ rest := fun hmem => hquery (hsubset hmem)
    have hfragment : '#' ∉ rest := fun hmem => hfragment (hsubset hmem)
    rw [hscheme] at h
    simp only at h
    split at h
    · exact readFile_suffix hplain hquery hfragment hrest h
    · split at h
      · have hslashes : EndsIn segment (rest.dropWhile fun c => c == '/' || c == '\\') := by
          obtain ⟨c, hc, hends⟩ := hrest
          refine ⟨c, hc, suffix_dropWhile ?_ hends⟩
          simp [ne_of_isPlainChar hc (by decide : isPlainChar '/' = false),
            ne_of_isPlainChar hc (by decide : isPlainChar '\\' = false)]
        have hsubset := (List.dropWhile_suffix (l := rest) fun c => c == '/' || c == '\\').subset
        exact readHosted_suffix hplain (fun hmem => hquery (hsubset hmem))
          (fun hmem => hfragment (hsubset hmem)) hslashes.suffix h
      · split at h
        · have hrest := (hrest.of_cons (by decide)).of_cons (by decide)
          exact readHosted_suffix hplain (fun hmem => hquery (by simp [hmem]))
            (fun hmem => hfragment (by simp [hmem])) hrest.suffix h
        · cases h
          rw [splitQuery_of_notMem hquery hfragment]
          exact hrest.suffix

/-- A path does not end in two segments. -/
theorem segment_unique {segment' path : List Char} (hplain : IsPlain segment)
    (hplain' : IsPlain segment') (h : '/' :: segment <:+ path) (h' : '/' :: segment' <:+ path) :
    segment = segment' := by
  have hslash : ∀ {s s' : List Char}, IsPlain s' → '/' :: s <:+ '/' :: s' → s = s' := by
    intro s s' hs' hsuffix
    rcases List.suffix_cons_iff.mp hsuffix with heq | hinside
    · exact List.tail_eq_of_cons_eq heq
    · exact absurd (hinside.subset List.mem_cons_self) (hs'.notMem (by decide))
  rcases List.suffix_or_suffix_of_suffix h h' with hinside | hinside
  · exact hslash hplain' hinside
  · exact (hslash hplain hinside).symm

end HealthBoard.Url
