/-
Which machines are told apart.

A machine id and a name become one text with a colon between them, and that is what is hashed.  Both
may hold colons of their own.  Of a text with two colons nobody can say which of them is the one
between, and what stands in between the two may have been the end of the machine id or the beginning
of the name: `Shifted` is this.  Machines that are known by different pairs are hashed as different
texts unless their pairs are shifted (`identity_eq_iff`), so their visitor ids are the same only
then or if the hash collides.
-/
import HealthBoard.Proofs.Fingerprint.Host

namespace HealthBoard

/-- Two inputs that the hash cannot tell apart. -/
def Xxh3.Collide (b b' : ByteArray) : Prop := b ≠ b' ∧ Xxh3.hash b = Xxh3.hash b'

namespace Host

/-- The texts that stand for the machine id and the name in what is hashed; one that is missing is
empty, and not both are missing. -/
def Identified (h : Host) (machineId name : String) : Prop :=
  ∃ id? name?, h.KnownBy id? name? ∧ (id? ≠ none ∨ name? ≠ none) ∧
    machineId = id?.getD "" ∧ name = name?.getD ""

/-- What the second pair has at the end of its machine id, the first has in front of its name. -/
def Shifted (machineId name machineId' name' : String) : Prop :=
  ∃ middle, machineId' = machineId ++ ":" ++ middle ∧ name = middle ++ ":" ++ name'

variable {machineId name machineId' name' : String}

/-! ### The text that is hashed -/

theorem identity_of_shifted (h : Shifted machineId name machineId' name') :
    identity machineId name = identity machineId' name' := by
  obtain ⟨middle, rfl, rfl⟩ := h
  simp only [identity, String.append_assoc]

theorem toList_identity (machineId name : String) :
    (identity machineId name).toList
      = machineId.toList ++ ':' :: name.toList ++ ":linux:x86_64".toList := by
  unfold identity
  simp only [String.toList_append, List.append_assoc]
  rfl

/-- One of two texts goes on where the other has its colon. -/
theorem shifted_of_append {more : List Char}
    (hid : machineId'.toList = machineId.toList ++ more)
    (hname : ':' :: name.toList = more ++ ':' :: name'.toList) :
    (machineId = machineId' ∧ name = name') ∨ Shifted machineId name machineId' name' := by
  cases more with
  | nil =>
      rw [List.append_nil, String.toList_inj] at hid
      exact .inl ⟨hid.symm, String.toList_inj.mp (List.cons.inj hname).2⟩
  | cons c middle =>
      obtain ⟨rfl, hrest⟩ := List.cons.inj hname
      refine .inr ⟨String.ofList middle, ?_, ?_⟩
      · rw [← String.toList_inj, hid]
        simp
      · rw [← String.toList_inj, hrest]
        simp

/-- **Different pairs are one text exactly if they are shifted.** -/
theorem identity_eq_iff :
    identity machineId name = identity machineId' name' ↔
      (machineId = machineId' ∧ name = name') ∨ Shifted machineId name machineId' name' ∨
        Shifted machineId' name' machineId name := by
  constructor
  · intro h
    have hjoined : machineId.toList ++ ':' :: name.toList
        = machineId'.toList ++ ':' :: name'.toList := by
      rw [← String.toList_inj, toList_identity, toList_identity] at h
      exact List.append_cancel_right h
    rcases List.append_eq_append_iff.mp hjoined with ⟨more, hid, hname⟩ | ⟨more, hid, hname⟩
    · exact (shifted_of_append hid hname).imp_right .inl
    · rcases shifted_of_append hid hname with ⟨rfl, rfl⟩ | hshifted
      · exact .inl ⟨rfl, rfl⟩
      · exact .inr (.inr hshifted)
  · rintro (⟨rfl, rfl⟩ | hshifted | hshifted)
    · rfl
    · exact identity_of_shifted hshifted
    · exact (identity_of_shifted hshifted).symm

/-- Pairs are shifted by a colon, one in a machine id and one in a name. -/
theorem Shifted.colons (h : Shifted machineId name machineId' name') :
    ':' ∈ machineId'.toList ∧ ':' ∈ name.toList := by
  obtain ⟨middle, rfl, rfl⟩ := h
  simp

/-! ### Visitor ids -/

theorem Identified.collect_eq {h : Host} (hid : h.Identified machineId name) :
    h.collect = .ok (visitorId machineId name) := by
  obtain ⟨id?, name?, hknown, hsome, rfl, rfl⟩ := hid
  obtain ⟨rfl, rfl⟩ := knownBy_iff.mp hknown
  exact collect_of_known hsome

theorem visitorId_eq_iff :
    visitorId machineId name = visitorId machineId' name' ↔
      Xxh3.hash (identity machineId name).toUTF8 = Xxh3.hash (identity machineId' name').toUTF8 :=
  ⟨Xxh3.eq_of_text_eq, congrArg Xxh3.Hash128.text⟩

theorem toUTF8_inj {s t : String} : s.toUTF8 = t.toUTF8 ↔ s = t := by
  rw [String.toUTF8_eq_toByteArray, String.toUTF8_eq_toByteArray, String.toByteArray_inj]

/--
**Machines are told apart, but for shifted colons.**  Let two machines be known by different machine
ids or names.  They are hashed as one text exactly if the pairs are shifted, and have one visitor id
exactly then or if their texts are a collision of the hash.  If the machine ids have no colon, or
the names have none, then the texts are different.
-/
theorem collect_told_apart {h h' : Host} (hid : h.Identified machineId name)
    (hid' : h'.Identified machineId' name') (hne : (machineId, name) ≠ (machineId', name')) :
    (identity machineId name = identity machineId' name' ↔
      Shifted machineId name machineId' name' ∨ Shifted machineId' name' machineId name) ∧
    (h.collect = h'.collect ↔
      (Shifted machineId name machineId' name' ∨ Shifted machineId' name' machineId name) ∨
        Xxh3.Collide (identity machineId name).toUTF8 (identity machineId' name').toUTF8) ∧
    ((':' ∉ machineId.toList ∧ ':' ∉ machineId'.toList) ∨
        (':' ∉ name.toList ∧ ':' ∉ name'.toList) →
      identity machineId name ≠ identity machineId' name') := by
  have hpair : ¬ (machineId = machineId' ∧ name = name') := by rwa [Ne, Prod.mk.injEq] at hne
  have hshifted : identity machineId name = identity machineId' name' ↔
      Shifted machineId name machineId' name' ∨ Shifted machineId' name' machineId name := by
    rw [identity_eq_iff, or_iff_right hpair]
  refine ⟨hshifted, ?_, ?_⟩
  · rw [hid.collect_eq, hid'.collect_eq, Except.ok.injEq, visitorId_eq_iff, ← hshifted]
    by_cases hsame : identity machineId name = identity machineId' name'
    · simp [hsame]
    · unfold Xxh3.Collide
      rw [Ne, toUTF8_inj]
      simp [hsame]
  · rintro hcolon heq
    rcases hshifted.mp heq with hshift | hshift
    · exact hcolon.elim (fun h => h.2 hshift.colons.1) (fun h => h.1 hshift.colons.2)
    · exact hcolon.elim (fun h => h.1 hshift.colons.1) (fun h => h.2 hshift.colons.2)

/-- Two machines with one machine id, which has a colon as well. -/
theorem collect_told_apart_by_name :
    let first : Host := ⟨[some (Text.bytes "0a:f".toList)], [some "Node-1"]⟩
    let second : Host := ⟨[none, some (Text.bytes "0a:f\n".toList)], [some "", some "node-2"]⟩
    first.Identified "0a:f" "node-1" ∧ second.Identified "0a:f" "node-2" ∧
      ("0a:f", "node-1") ≠ ("0a:f", "node-2") ∧
      (':' ∉ "node-1".toList ∧ ':' ∉ "node-2".toList) ∧
      identity "0a:f" "node-1" ≠ identity "0a:f" "node-2" := by
  intro first second
  have hfirst : first.Identified "0a:f" "node-1" :=
    ⟨some "0a:f", some "node-1", knownBy_iff.mpr (by decide +kernel), by decide, rfl, rfl⟩
  have hsecond : second.Identified "0a:f" "node-2" :=
    ⟨some "0a:f", some "node-2", knownBy_iff.mpr (by decide +kernel), by decide, rfl, rfl⟩
  have hne : ("0a:f", "node-1") ≠ ("0a:f", "node-2") := by decide
  have hcolon : ':' ∉ "node-1".toList ∧ ':' ∉ "node-2".toList := by decide
  obtain ⟨-, -, happart⟩ := collect_told_apart hfirst hsecond hne
  exact ⟨hfirst, hsecond, hne, hcolon, happart (.inr hcolon)⟩

/-- One machine has the colon in its machine id and the other in its name. -/
theorem collect_confuses :
    let first : Host := ⟨[some (Text.bytes "a:b\n".toList)], [some "c"]⟩
    let second : Host := ⟨[some (Text.bytes "a\n".toList)], [some "b:c"]⟩
    first.Identified "a:b" "c" ∧ second.Identified "a" "b:c" ∧ ("a:b", "c") ≠ ("a", "b:c") ∧
      identity "a:b" "c" = identity "a" "b:c" ∧ first.collect = second.collect := by
  intro first second
  have hfirst : first.Identified "a:b" "c" :=
    ⟨some "a:b", some "c", knownBy_iff.mpr (by decide +kernel), by decide, rfl, rfl⟩
  have hsecond : second.Identified "a" "b:c" :=
    ⟨some "a", some "b:c", knownBy_iff.mpr (by decide +kernel), by decide, rfl, rfl⟩
  have htext : identity "a:b" "c" = identity "a" "b:c" := by decide
  refine ⟨hfirst, hsecond, by decide, htext, ?_⟩
  rw [hfirst.collect_eq, hsecond.collect_eq, visitorId, visitorId, htext]

end Host
end HealthBoard
