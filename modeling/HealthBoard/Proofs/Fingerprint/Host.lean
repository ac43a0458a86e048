/-
What a machine is known by.

A machine shows files and variables, and of each kind only the first one that says anything counts.
`KnownBy` says what that is, and does not say how it is looked for: a file says something if its
bytes are text and the text is not all white space, a variable if it is set and not all white space.
Every machine is known by one machine id, or none, and by one name, or none.

So two machines can look different and be known by the same.  `Change` lists what may be done to a
machine without anyone noticing, each step on its own; by induction on the steps, nothing that they
lead to changes the visitor id.
-/
import HealthBoard.Fingerprint.Host
import HealthBoard.Proofs.Hash.Digits
import HealthBoard.Proofs.Json.Text
import HealthBoard.Proofs.Text.Lowercase
import HealthBoard.Proofs.Text.Trim
import Mathlib.Logic.Relation

namespace HealthBoard.Host

/-- The file can be read as text, and this is what stands in it between white space. -/
def FileSays (contents : Option (List UInt8)) (id : String) : Prop :=
  ∃ text : String, contents = some (Text.bytes text.toList) ∧ Text.isAllBlank text = false ∧
    id = Text.trim text

/-- The variable is set, and this is what stands in it between white space, in lower case. -/
def VariableSays (value : Option String) (name : String) : Prop :=
  ∃ text, value = some text ∧ Text.isAllBlank text = false ∧
    name = Text.lowercase (Text.trim text)

/-- What the first one says that says anything, and nothing if none does. -/
inductive First {α : Type} (Says : α → String → Prop) : List α → Option String → Prop
  | none {all : List α} (hsilent : ∀ x ∈ all, ∀ text, ¬ Says x text) : First Says all .none
  | some {before after : List α} {x : α} {text : String}
      (hsilent : ∀ y ∈ before, ∀ text, ¬ Says y text) (htext : Says x text) :
      First Says (before ++ x :: after) (.some text)

/-- The machine id and the name by which a machine is known, if it has them. -/
structure KnownBy (h : Host) (machineId name : Option String) : Prop where
  machineId : First FileSays h.files machineId
  name : First VariableSays h.names name

/-- What is told of a machine that is known by these. -/
inductive Told : (machineId name : Option String) → Except CollectionFault String → Prop
  | unknown : Told none none (.error (.unavailable "no machine id or hostname available"))
  /-- What is missing is left empty in the text that is hashed. -/
  | known {machineId name : Option String} {id : String}
      (hknown : machineId ≠ none ∨ name ≠ none)
      (hid : Xxh3.IsHexText 32 id
        (Xxh3.hash (identity (machineId.getD "") (name.getD "")).toUTF8).toNat) :
      Told machineId name (.ok id)

/-- A change to what a machine shows that is none to what it is known by. -/
inductive Change : Host → Host → Prop
  /-- A file that says nothing is taken away; the other way round, it is put in. -/
  | silentFile {before after : List (Option (List UInt8))} {contents : Option (List UInt8)}
      {names : List (Option String)} (hsilent : ∀ id, ¬ FileSays contents id) :
      Change ⟨before ++ contents :: after, names⟩ ⟨before ++ after, names⟩
  /-- Files after one that says something are others. -/
  | laterFiles {before after after' : List (Option (List UInt8))}
      {contents : Option (List UInt8)} {names : List (Option String)} {id : String}
      (htext : FileSays contents id) :
      Change ⟨before ++ contents :: after, names⟩ ⟨before ++ contents :: after', names⟩
  | fileSpace {before after : List (Option (List UInt8))} {names : List (Option String)}
      {core text : String} (hpadded : Text.Padded core text) :
      Change ⟨before ++ some (Text.bytes text.toList) :: after, names⟩
        ⟨before ++ some (Text.bytes core.toList) :: after, names⟩
  /-- Variables after one that says something are others. -/
  | laterVariables {files : List (Option (List UInt8))} {before after after' : List (Option String)}
      {value : Option String} {name : String} (htext : VariableSays value name) :
      Change ⟨files, before ++ value :: after⟩ ⟨files, before ++ value :: after'⟩
  | variableSpace {files : List (Option (List UInt8))} {before after : List (Option String)}
      {core text : String} (hpadded : Text.Padded core text) :
      Change ⟨files, before ++ some text :: after⟩ ⟨files, before ++ some core :: after⟩

/-- Machines that become each other by such changes, made and undone. -/
def Alike : Host → Host → Prop := Relation.EqvGen Change

/-! ### One file, one variable -/

theorem usableFile?_eq_some_iff {contents : Option (List UInt8)} {id : String} :
    usableFile? contents = some id ↔ FileSays contents id := by
  unfold usableFile? FileSays
  constructor
  · intro h
    obtain ⟨bytes, hbytes, hread⟩ := Option.bind_eq_some_iff.mp h
    obtain ⟨text, htext, hid⟩ := Option.bind_eq_some_iff.mp hread
    rw [fromUTF8?_eq_some_iff] at htext
    refine ⟨text, hbytes.trans (congrArg some htext), ?_⟩
    dsimp only at hid
    split at hid
    · cases hid
    · rename_i hsome
      rw [beq_iff_eq, Text.trim_eq_empty_iff, Bool.not_eq_true] at hsome
      exact ⟨hsome, (Option.some.inj hid).symm⟩
  · rintro ⟨text, rfl, hsome, rfl⟩
    refine Option.bind_eq_some_iff.mpr ⟨_, rfl, Option.bind_eq_some_iff.mpr ⟨text, ?_, ?_⟩⟩
    · exact fromUTF8?_eq_some_iff.mpr rfl
    · rw [← Bool.not_eq_true, ← Text.trim_eq_empty_iff] at hsome
      simp [hsome]

theorem usableVariable?_eq_some_iff {value : Option String} {name : String} :
    usableVariable? value = some name ↔ VariableSays value name := by
  unfold usableVariable? VariableSays
  constructor
  · intro h
    obtain ⟨text, htext, hname⟩ := Option.bind_eq_some_iff.mp h
    refine ⟨text, htext, ?_⟩
    dsimp only at hname
    split at hname
    · cases hname
    · rename_i hsome
      rw [beq_iff_eq, Text.lowercase_eq_empty_iff, Text.trim_eq_empty_iff, Bool.not_eq_true]
        at hsome
      exact ⟨hsome, (Option.some.inj hname).symm⟩
  · rintro ⟨text, rfl, hsome, rfl⟩
    refine Option.bind_eq_some_iff.mpr ⟨text, rfl, ?_⟩
    rw [← Bool.not_eq_true, ← Text.trim_eq_empty_iff, ← Text.lowercase_eq_empty_iff] at hsome
    simp [hsome]

/-! ### The first that says anything -/

section First

variable {α : Type} {says? : α → Option String} {Says : α → String → Prop}

theorem findSome?_eq_iff_first (htext : ∀ x text, says? x = some text ↔ Says x text)
    {all : List α} {found : Option String} :
    all.findSome? says? = found ↔ First Says all found := by
  have hsilent : ∀ x, says? x = none ↔ ∀ text, ¬ Says x text := by
    intro x
    rw [Option.eq_none_iff_forall_ne_some]
    exact forall_congr' fun text => not_congr (htext x text)
  constructor
  · rintro rfl
    cases hfound : all.findSome? says? with
    | none => exact .none fun x hx => (hsilent x).mp (List.findSome?_eq_none_iff.mp hfound x hx)
    | some text =>
        obtain ⟨before, x, after, rfl, hx, hbefore⟩ := List.findSome?_eq_some_iff.mp hfound
        exact .some (fun y hy => (hsilent y).mp (hbefore y hy)) ((htext x text).mp hx)
  · intro h
    cases h with
    | none hall => exact List.findSome?_eq_none_iff.mpr fun x hx => (hsilent x).mpr (hall x hx)
    | some hbefore hx =>
        exact List.findSome?_eq_some_iff.mpr ⟨_, _, _, rfl, (htext _ _).mpr hx,
          fun y hy => (hsilent y).mpr (hbefore y hy)⟩

end First

/-- What a machine is known by is what is looked for. -/
theorem knownBy_iff {h : Host} {machineId name : Option String} :
    h.KnownBy machineId name ↔ h.machineId? = machineId ∧ h.hostName? = name := by
  unfold machineId? hostName?
  rw [findSome?_eq_iff_first fun _ _ => usableFile?_eq_some_iff,
    findSome?_eq_iff_first fun _ _ => usableVariable?_eq_some_iff]
  exact ⟨fun hknown => ⟨hknown.machineId, hknown.name⟩, fun hknown => ⟨hknown.1, hknown.2⟩⟩

theorem knownBy_self (h : Host) : h.KnownBy h.machineId? h.hostName? := knownBy_iff.mpr ⟨rfl, rfl⟩

theorem collect_of_known {h : Host} (hknown : h.machineId? ≠ none ∨ h.hostName? ≠ none) :
    h.collect = .ok (visitorId (h.machineId?.getD "") (h.hostName?.getD "")) := by
  unfold collect
  split
  · rename_i hid hname
    rw [hid, hname] at hknown
    exact absurd rfl (hknown.elim id id)
  · rfl

theorem told_collect (h : Host) : Told h.machineId? h.hostName? h.collect := by
  by_cases hknown : h.machineId? ≠ none ∨ h.hostName? ≠ none
  · rw [collect_of_known hknown]
    exact .known hknown (Xxh3.isHexText_text _)
  · push Not at hknown
    have hunknown : h.collect = .error (.unavailable "no machine id or hostname available") := by
      unfold collect
      rw [hknown.1, hknown.2]
    rw [hunknown, hknown.1, hknown.2]
    exact .unknown

theorem collect_eq_unavailable_iff {h : Host} :
    (∃ reason, h.collect = .error (.unavailable reason)) ↔ h.KnownBy none none := by
  rw [knownBy_iff]
  have htold := told_collect h
  constructor
  · rintro ⟨reason, hcollect⟩
    rw [hcollect] at htold
    generalize h.machineId? = machineId, h.hostName? = name at htold
    cases htold
    exact ⟨rfl, rfl⟩
  · rintro ⟨hid, hname⟩
    rw [hid, hname] at htold
    generalize h.collect = collected at htold ⊢
    cases htold with
    | unknown => exact ⟨_, rfl⟩
    | known hknown => exact absurd rfl (hknown.elim id id)

/-! ### Changes -/

theorem usableFile?_eq_none_iff {contents : Option (List UInt8)} :
    usableFile? contents = none ↔ ∀ id, ¬ FileSays contents id := by
  rw [Option.eq_none_iff_forall_ne_some]
  exact forall_congr' fun id => not_congr usableFile?_eq_some_iff

theorem fileSays_padded {core text id : String} (h : Text.Padded core text) :
    FileSays (some (Text.bytes text.toList)) id ↔ FileSays (some (Text.bytes core.toList)) id := by
  simp only [← usableFile?_eq_some_iff, usableFile?, Option.bind_eq_bind, Option.bind_some,
    fromUTF8?_bytes, h.trim_eq]

theorem variableSays_padded {core text name : String} (h : Text.Padded core text) :
    VariableSays (some text) name ↔ VariableSays (some core) name := by
  simp only [← usableVariable?_eq_some_iff, usableVariable?, Option.bind_eq_bind, Option.bind_some,
    h.trim_eq]

/-- One change leaves what is looked for as it is. -/
theorem Change.same {h h' : Host} (hchange : Change h h') :
    h.machineId? = h'.machineId? ∧ h.hostName? = h'.hostName? := by
  cases hchange with
  | silentFile hsilent =>
      refine ⟨?_, rfl⟩
      unfold machineId?
      simp only [List.findSome?_append, List.findSome?_cons, usableFile?_eq_none_iff.mpr hsilent]
  | laterFiles htext =>
      refine ⟨?_, rfl⟩
      unfold machineId?
      simp only [List.findSome?_append, List.findSome?_cons, usableFile?_eq_some_iff.mpr htext]
  | fileSpace hpadded =>
      refine ⟨?_, rfl⟩
      have hfile := Option.ext fun id => (usableFile?_eq_some_iff.trans
        (fileSays_padded hpadded)).trans usableFile?_eq_some_iff.symm
      unfold machineId?
      simp only [List.findSome?_append, List.findSome?_cons, hfile]
  | laterVariables htext =>
      refine ⟨rfl, ?_⟩
      unfold hostName?
      simp only [List.findSome?_append, List.findSome?_cons, usableVariable?_eq_some_iff.mpr htext]
  | variableSpace hpadded =>
      refine ⟨rfl, ?_⟩
      have hvariable := Option.ext fun name => (usableVariable?_eq_some_iff.trans
        (variableSays_padded hpadded)).trans usableVariable?_eq_some_iff.symm
      unfold hostName?
      simp only [List.findSome?_append, List.findSome?_cons, hvariable]

theorem Alike.same {h h' : Host} (halike : Alike h h') :
    h.machineId? = h'.machineId? ∧ h.hostName? = h'.hostName? := by
  induction halike with
  | rel _ _ hchange => exact hchange.same
  | refl _ => exact ⟨rfl, rfl⟩
  | symm _ _ _ ih => exact ⟨ih.1.symm, ih.2.symm⟩
  | trans _ _ _ _ _ ih ih' => exact ⟨ih.1.trans ih'.1, ih.2.trans ih'.2⟩

/--
**A machine is known by its first machine id and its first name, and by nothing else.**  Every
machine is known by one of each, or by none of a kind; if it has neither then there is no visitor
id, for the one reason there is, and else the visitor id is the hash in 32 digits.  No change that
leaves the two as they are has a part in it.
-/
theorem collect_known (h : Host) :
    (∃ machineId name, h.KnownBy machineId name ∧ Told machineId name h.collect) ∧
    (∀ machineId name, h.KnownBy machineId name → Told machineId name h.collect) ∧
    ((∃ reason, h.collect = .error (.unavailable reason)) ↔ h.KnownBy none none) ∧
    (∀ (h' : Host) machineId name, h.KnownBy machineId name → h'.KnownBy machineId name →
      h'.collect = h.collect) ∧
    ∀ h' : Host, Alike h h' → h'.collect = h.collect := by
  have hsame : ∀ h' : Host, h.machineId? = h'.machineId? ∧ h.hostName? = h'.hostName? →
      h'.collect = h.collect := by
    rintro h' ⟨hid, hname⟩
    unfold collect
    rw [hid, hname]
  refine ⟨⟨_, _, knownBy_self h, told_collect h⟩, ?_, collect_eq_unavailable_iff, ?_, ?_⟩
  · intro machineId name hknown
    obtain ⟨rfl, rfl⟩ := knownBy_iff.mp hknown
    exact told_collect h
  · intro h' machineId name hknown hknown'
    obtain ⟨rfl, rfl⟩ := knownBy_iff.mp hknown
    obtain ⟨hid, hname⟩ := knownBy_iff.mp hknown'
    exact hsame h' ⟨hid.symm, hname.symm⟩
  · intro h' halike
    exact hsame h' halike.same

/-- Two files that say nothing are gone, and the third one and the second variable are trimmed. -/
theorem collect_known_tidied :
    let shown : Host :=
      ⟨[none, some [0xC3], some (Text.bytes " 0aF\n".toList), some [0x39]],
        [some "\t", some "Node-1 "]⟩
    let tidied : Host := ⟨[some (Text.bytes "0aF".toList)], [some "\t", some "Node-1"]⟩
    shown.KnownBy (some "0aF") (some "node-1") ∧ tidied.KnownBy (some "0aF") (some "node-1") ∧
      Alike shown tidied ∧ Told (some "0aF") (some "node-1") shown.collect ∧
      tidied.collect = shown.collect := by
  intro shown tidied
  have hshown : shown.KnownBy (some "0aF") (some "node-1") := knownBy_iff.mpr (by decide +kernel)
  have htidied : tidied.KnownBy (some "0aF") (some "node-1") := knownBy_iff.mpr (by decide +kernel)
  have htext : FileSays (some (Text.bytes " 0aF\n".toList)) "0aF" :=
    usableFile?_eq_some_iff.mp (by decide +kernel)
  have hmissing : Change shown ⟨shown.files.drop 1, shown.names⟩ :=
    @Change.silentFile [] _ _ _ (usableFile?_eq_none_iff.mp rfl)
  have hgarbled : Change ⟨shown.files.drop 1, shown.names⟩ ⟨shown.files.drop 2, shown.names⟩ :=
    @Change.silentFile [] _ _ _ (usableFile?_eq_none_iff.mp (by decide +kernel))
  have hlater : Change ⟨shown.files.drop 2, shown.names⟩
      ⟨[some (Text.bytes " 0aF\n".toList)], shown.names⟩ :=
    @Change.laterFiles [] _ [] _ _ _ htext
  have hfile : Change ⟨[some (Text.bytes " 0aF\n".toList)], shown.names⟩
      ⟨tidied.files, shown.names⟩ :=
    @Change.fileSpace [] _ _ _ _ (Text.padded_of_all [' '] ['\n'] (by decide) rfl rfl)
  have hvariable : Change ⟨tidied.files, shown.names⟩ tidied :=
    @Change.variableSpace _ [some "\t"] _ _ _ (Text.padded_of_all [] [' '] (by decide) rfl rfl)
  have halike : Alike shown tidied :=
    .trans _ _ _ (.rel _ _ hmissing) <| .trans _ _ _ (.rel _ _ hgarbled) <|
      .trans _ _ _ (.rel _ _ hlater) <| .trans _ _ _ (.rel _ _ hfile) (.rel _ _ hvariable)
  obtain ⟨-, htold, -, -, hsame⟩ := collect_known shown
  exact ⟨hshown, htidied, halike, htold _ _ hshown, hsame tidied halike⟩

end HealthBoard.Host
