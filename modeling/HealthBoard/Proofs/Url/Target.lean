/-
What stands in a target is what was put into the query.

A question mark divides what is asked for from its parameters.  An address that is read keeps none
in its path: where hosts are looked into, the path is written with the question mark by its number,
and elsewhere the path ends before the first of them.  An address whose text has none has no query
either.  So the first question mark of a target is the one before the parameters given to it, and
what follows reads as those parameters.
-/
import HealthBoard.Proofs.Except
import HealthBoard.Proofs.Url.Form
import HealthBoard.Url.Address
import Mathlib.Data.List.TakeWhile
import Mathlib.Tactic.SplitIfs

namespace HealthBoard.Url

/-! ### Where a query begins -/

/-- What stands before the first question mark has none. -/
theorem takeWhile_questionMark (s : List Char) : '?' ∉ s.takeWhile (· != '?') := by
  intro h
  have hne := List.mem_takeWhile_imp h
  simp at hne

theorem splitQuery_fst (s : List Char) : '?' ∉ (splitQuery s).1 := by
  unfold splitQuery
  simp only
  split
  · exact takeWhile_questionMark _
  · rename_i hdrop
    rw [List.dropWhile_eq_nil_iff] at hdrop
    intro h
    simpa using hdrop '?' h

theorem splitQuery_snd {s : List Char} (h : '?' ∉ s) : (splitQuery s).2 = none := by
  have hdrop : (s.takeWhile (· != '#')).dropWhile (· != '?') = [] := by
    rw [List.dropWhile_eq_nil_iff]
    rintro c hc
    have hne : c ≠ '?' := fun heq => h (heq ▸ (List.takeWhile_prefix _).subset hc)
    simpa using hne
  simp only [splitQuery, hdrop]

/-! ### Paths that are written anew -/

theorem upperHex_ne {n : Nat} (h : n < 16) : upperHex n ≠ '?' := by
  have hall : ∀ i : Fin 16, upperHex i ≠ '?' := by decide
  exact hall ⟨n, h⟩

theorem isPathByte_lt {b : UInt8} (h : isPathByte b = true) : b.toNat < 0x80 := by
  simp only [isPathByte, Bool.and_eq_true, decide_eq_true_eq, UInt8.lt_iff_toNat_lt] at h
  exact Nat.lt_trans h.1.2 (by decide)

theorem percentEncode_path (s : List Char) : '?' ∉ percentEncode isPathByte s := by
  intro h
  obtain ⟨b, -, hb⟩ := List.mem_flatMap.mp h
  have hsmall : b.toNat < 256 := b.toNat_lt
  by_cases hkept : isPathByte b = true
  · rw [if_pos hkept, List.mem_singleton] at hb
    have hnumber : '?'.toNat = b.toNat := by rw [hb, Text.toNat_ofNat (isPathByte_lt hkept)]
    have hsign : b = 0x3F := UInt8.toNat_inj.mp hnumber.symm
    rw [hsign] at hkept
    cases hkept
  · rw [if_neg hkept, percentByte] at hb
    simp only [List.mem_cons, List.not_mem_nil, or_false] at hb
    rcases hb with hb | hb | hb
    · cases hb
    · exact upperHex_ne (by omega) hb.symm
    · exact upperHex_ne (by omega) hb.symm

theorem readPath_query (hosts : Bool) (s : List Char) : '?' ∉ readPath hosts s := by
  intro h
  obtain ⟨segment, -, hmem⟩ := List.mem_flatMap.mp h
  rcases List.mem_cons.mp hmem with hmem | hmem
  · cases hmem
  · exact percentEncode_path segment hmem

/-! ### Addresses -/

/-- The address has no question mark in its path, and a query only if its text has one. -/
structure Divided (text : List Char) (a : Address) : Prop where
  path : '?' ∉ a.path
  query : '?' ∉ text → a.query = none

theorem Divided.mono {s t : List Char} {a : Address} (h : Divided s a) (hst : s ⊆ t) :
    Divided t a where
  path := h.path
  query ht := h.query fun hs => ht (hst hs)

/-- All readers find the query in the same way, behind what says where to connect. -/
theorem divided_of_splitQuery {text behind : List Char} {a : Address} {kept : UInt8 → Bool}
    (hsubset : behind ⊆ text) (hpath : '?' ∉ a.path)
    (hquery : a.query = (splitQuery behind).2.map (percentEncode kept)) : Divided text a where
  path := hpath
  query htext := by
    rw [hquery, splitQuery_snd fun h => htext (hsubset h)]
    rfl

theorem readHosted_divided {scheme rest : List Char} {a : Address}
    (h : readHosted scheme rest = .ok a) : Divided rest a := by
  simp only [readHosted] at h
  obtain ⟨authority, -, h⟩ := exists_of_bind_eq_ok h
  simp only [pure, Except.pure, Except.ok.injEq] at h
  subst h
  refine divided_of_splitQuery (List.dropWhile_suffix _).subset ?_ rfl
  split
  · exact List.not_mem_nil
  · exact readPath_query _ _

theorem readFile_divided {scheme rest : List Char} {a : Address}
    (h : readFile scheme rest = .ok a) : Divided rest a := by
  have hsubset : ∀ first second rest', (rest'.dropWhile fun c => !endsAuthority true c)
      ⊆ first :: second :: rest' := fun _ _ _ _ hc =>
    List.mem_cons_of_mem _ (List.mem_cons_of_mem _ ((List.dropWhile_suffix _).subset hc))
  simp only [readFile] at h
  split at h
  · split_ifs at h
    · obtain ⟨host, -, h⟩ := exists_of_bind_eq_ok h
      cases h
      exact divided_of_splitQuery (hsubset _ _ _) (readPath_query _ _) rfl
    · obtain ⟨host, -, h⟩ := exists_of_bind_eq_ok h
      cases h
      exact divided_of_splitQuery (hsubset _ _ _) (readPath_query _ _) rfl
    · cases h
      exact divided_of_splitQuery (List.Subset.refl _) (readPath_query _ _) rfl
  · cases h
    exact divided_of_splitQuery (List.Subset.refl _) (readPath_query _ _) rfl

theorem significant_subset (s : List Char) : significant s ⊆ s := by
  intro c hc
  have hc := (List.mem_filter.mp hc).1
  have hc := (List.dropWhile_suffix _).subset (List.mem_reverse.mp hc)
  exact (List.dropWhile_suffix _).subset (List.mem_reverse.mp hc)

theorem splitScheme?_subset {s scheme rest : List Char} (h : splitScheme? s = some (scheme, rest)) :
    rest ⊆ s := by
  unfold splitScheme? at h
  simp only at h
  split at h
  · split at h
    · split at h
      · rename_i hdrop
        cases h
        intro c hc
        refine (List.dropWhile_suffix _).subset (hdrop ▸ List.mem_cons_of_mem _ hc)
      · cases h
    · cases h
  · cases h

/-- **An address keeps its path and its query apart.** -/
theorem Address.parse_divided {text : String} {a : Address} (h : Address.parse text = .ok a) :
    Divided text.toList a := by
  unfold Address.parse at h
  cases hscheme : splitScheme? (significant text.toList) with
  | none => 
    rw [hscheme] at h
    cases h
  | some parts => 
    obtain ⟨scheme, rest⟩ := parts
    have hsubset : rest ⊆ text.toList := fun c hc =>
      significant_subset _ (splitScheme?_subset hscheme hc)
    refine Divided.mono ?_ hsubset
    rw [hscheme] at h
    simp only at h
    split at h
    · exact readFile_divided h
    · split at h
      · exact (readHosted_divided h).mono (List.dropWhile_suffix _).subset
      · split at h
        · exact (readHosted_divided h).mono fun c hc => by simp [hc]
        · cases h
          exact divided_of_splitQuery (List.Subset.refl _) (splitQuery_fst _) rfl

/-! ### Targets -/

/-- The parameters that a target reads as: the pairs behind its first question mark. -/
def parameters (target : List Char) : List (String × String) :=
  Form.decode (Text.bytes ((target.dropWhile (· != '?')).drop 1))

theorem dropWhile_path {path : List Char} (h : '?' ∉ path) (rest : List Char) :
    (path ++ rest).dropWhile (· != '?') = rest.dropWhile (· != '?') := by
  refine List.dropWhile_append_of_pos fun c hc => ?_
  have hne : c ≠ '?' := fun heq => h (heq ▸ hc)
  simpa using hne

theorem takeWhile_path {path : List Char} (h : '?' ∉ path) (rest : List Char) :
    (path ++ rest).takeWhile (· != '?') = path ++ rest.takeWhile (· != '?') := by
  refine List.takeWhile_append_of_pos fun c hc => ?_
  have hne : c ≠ '?' := fun heq => h (heq ▸ hc)
  simpa using hne

/-- The target asks for the path with these parameters and no others. -/
structure AsksFor (target path : List Char) (pairs : List (String × String)) : Prop where
  path_eq : target.takeWhile (· != '?') = path
  parameters_eq : parameters target = pairs

theorem asksFor_target {a : Address} (hpath : '?' ∉ a.path) :
    AsksFor a.target a.path (parameters a.target) where
  path_eq := by
    rw [Address.target, takeWhile_path hpath]
    cases a.query with
    | none => exact List.append_nil _
    | some q => rw [List.takeWhile_cons_of_neg (by decide), List.append_nil]
  parameters_eq := rfl

theorem parameters_target_of_none {a : Address} (hpath : '?' ∉ a.path) (hquery : a.query = none) :
    parameters a.target = [] := by
  rw [parameters, Address.target, dropWhile_path hpath, hquery]
  rfl

/-- What a path with a query reads as. -/
theorem parameters_query {path : List Char} (hpath : '?' ∉ path) (query : List Char) :
    parameters (path ++ '?' :: query) = Form.decode (Text.bytes query) := by
  rw [parameters, dropWhile_path hpath, List.dropWhile_cons_of_neg (by decide)]
  rfl

/-- Pairs behind an ampersand are read besides what stands before it. -/
theorem decode_encode_behind (query : List Char) (pairs : List (String × String)) :
    Form.decode (Text.bytes (query ++ '&' :: Form.encode pairs))
      = Form.decode (Text.bytes query) ++ pairs := by
  have hsign : Text.bytes ('&' :: Form.encode pairs)
      = 0x26 :: Text.bytes (Form.encode pairs) := by
    rw [Text.bytes_cons]
    rfl
  rw [Text.bytes_append, hsign, Form.decode_append, Form.decode_encode]

/-- **The parameters given to an address are those that its target reads as**, behind the ones that
the address had before. -/
theorem asksFor_withParameters {a : Address} (hpath : '?' ∉ a.path)
    (pairs : List (String × String)) :
    AsksFor (a.withParameters pairs).target a.path (parameters a.target ++ pairs) := by
  refine ⟨?_, ?_⟩
  · rw [Address.withParameters, Address.target, takeWhile_path hpath]
    exact (congrArg _ (List.takeWhile_cons_of_neg (by decide))).trans (List.append_nil _)
  · cases hquery : a.query with
    | none =>
      rw [parameters_target_of_none hpath hquery]
      simp only [Address.withParameters, Address.target, hquery]
      rw [parameters_query hpath, Form.decode_encode, List.nil_append]
    | some q =>
      have hold : parameters a.target = Form.decode (Text.bytes q) := by
        rw [Address.target, hquery, parameters_query hpath]
      rw [hold]
      simp only [Address.withParameters, Address.target, hquery]
      rw [parameters_query hpath]
      cases q with
      | nil => exact Form.decode_encode pairs
      | cons c q =>
        cases pairs with
        | nil => simp [Form.encode]
        | cons pair pairs =>
          rw [if_neg (by simp)]
          exact decode_encode_behind (c :: q) (pair :: pairs)

end HealthBoard.Url
