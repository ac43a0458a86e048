/-
When an upload is due, by exact arithmetic.

What is stored tells the time of the last upload if it is a decimal of 64 bits, with or without
white space around it.  Any other text tells nothing, and neither does no text; then an upload is
due.  `lastReport?_eq_some_iff` says which texts these are, without saying how one is read.

The time passed is clamped, and clamping keeps the order, so what is due stays due later and for
shorter intervals, whatever is stored.  To agree with exact arithmetic the interval has to lie above
the least integer of all: no time passed is clamped to less than that integer, so an interval of
that length has always passed.
-/
import HealthBoard.Proofs.Decimal.Denotes
import HealthBoard.Proofs.Fingerprint.Retry
import HealthBoard.Proofs.Text.Trim

namespace HealthBoard.Throttle

open KeyValueStore (get? fresh)
open LawfulStore (Ready)

/-- The time that is read from what is stored, if it tells one. -/
def lastReport? (stored : Option String) : Option Int64 :=
  stored.bind fun s => (Decimal.readInteger (Text.trim s)).toOption

variable {now last interval : Int64} {stored : Option String}

/-! ### What is stored -/

/-- **What is stored tells a time exactly if, without the white space at its ends, it is a decimal
of that time.** -/
theorem lastReport?_eq_some_iff : lastReport? stored = some last ↔
    ∃ s, stored = some s ∧ Decimal.Denotes (Text.trim s).toList last.toInt := by
  unfold lastReport?
  simp only [Option.bind_eq_some_iff, toOption_eq_some_iff, Decimal.readInteger_eq_ok_iff]

/-- After an upload that worked, its time is stored as a decimal. -/
theorem get?_lastReport_of_upload {σ : Type} [KeyValueStore σ] [LawfulStore σ] {store : σ}
    (h : Ready store) {force : Bool} {w : World} {id : String}
    (hacts : .report id ∈ (report interval force w store).acts) (hup : w.upload id = .ok ())
    (hwrite : lastReportKey ∉ w.faults.writes) :
    get? (report interval force w store).store lastReportKey
      = some (Decimal.text w.later.toInt) := by
  rcases report_cases interval force w store with ⟨-, ho⟩ | ⟨-, fault, -, ho⟩ | ⟨-, known, -, ho⟩
  · rw [ho] at hacts
    cases hacts
  · rw [ho] at hacts
    cases List.mem_singleton.mp hacts
  · rw [ho] at hacts
    have hid : id = known := by simpa using hacts
    rw [ho]
    exact get?_keep_lastReport h (hid ▸ hup) hwrite

/-! ### What is due -/

theorem isDue_eq_false_iff_clamp : isDue now stored interval = false ↔
    ∃ last, lastReport? stored = some last ∧
      (clamp (now.toInt - last.toInt)).toInt < interval.toInt := by
  have hread : stored.bind (fun s => (Decimal.readInteger (Text.trim s)).toOption)
      = lastReport? stored := rfl
  unfold isDue
  rw [hread]
  cases lastReport? stored with
  | none => simp
  | some last => simp

/-- Above the least integer the clamp makes no difference. -/
theorem isDue_eq_false_iff (hmin : leastInteger < interval.toInt) :
    isDue now stored interval = false ↔
      ∃ last, lastReport? stored = some last ∧ now.toInt - last.toInt < interval.toInt := by
  rw [isDue_eq_false_iff_clamp]
  refine exists_congr fun last => and_congr_right fun _ => ?_
  rw [← Int.not_le, le_toInt_clamp_iff hmin, Int.not_le]

/-- White space around what is stored makes no difference. -/
theorem isDue_padded {core s : String} (h : Text.Padded core s) :
    isDue now (some s) interval = isDue now (some core) interval := by
  unfold isDue
  rw [Option.bind_some, Option.bind_some, h.trim_eq]

/-- What is due is due for a shorter interval too. -/
theorem isDue_of_shorter {shorter : Int64} (hle : shorter.toInt ≤ interval.toInt)
    (h : isDue now stored interval = true) : isDue now stored shorter = true := by
  rw [← Bool.not_eq_false, isDue_eq_false_iff_clamp] at h ⊢
  rintro ⟨last, hlast, hlt⟩
  exact h ⟨last, hlast, Int.lt_of_lt_of_le hlt hle⟩

/--
**No upload is due exactly if a decimal is stored, with or without white space around it, and less
than the interval has passed since the time it tells.**  The time passed is exact, for every
interval above the least.  An upload that worked stores its time so that the same time is read
again; what is due stays due as the clock moves on, and for a shorter interval.
-/
theorem isDue_exact (σ : Type) [KeyValueStore σ] [LawfulStore σ] (now interval : Int64)
    (stored : Option String) :
    (leastInteger < interval.toInt →
      (isDue now stored interval = false ↔
        ∃ (s : String) (last : Int64), stored = some s ∧
          Decimal.Denotes (Text.trim s).toList last.toInt ∧
          now.toInt - last.toInt < interval.toInt)) ∧
    (∀ core s, Text.Padded core s →
      isDue now (some s) interval = isDue now (some core) interval) ∧
    (∀ (force : Bool) (w : World) (id : String) (store : σ), Ready store →
      .report id ∈ (report interval force w store).acts → w.upload id = .ok () →
      lastReportKey ∉ w.faults.writes →
      get? (report interval force w store).store lastReportKey
        = some (Decimal.text w.later.toInt)) ∧
    (∀ t : Int64, Decimal.readInteger (Text.trim (Decimal.text t.toInt)) = .ok t) ∧
    (∀ later, now ≤ later → isDue now stored interval = true →
      isDue later stored interval = true) ∧
    ∀ shorter, shorter ≤ interval → isDue now stored interval = true →
      isDue now stored shorter = true := by
  refine ⟨?_, ?_, ?_, ?_, ?_, ?_⟩
  · intro hmin
    rw [isDue_eq_false_iff hmin]
    simp only [lastReport?_eq_some_iff]
    constructor
    · rintro ⟨last, ⟨s, hs, hdenotes⟩, hlt⟩
      exact ⟨s, last, hs, hdenotes, hlt⟩
    · rintro ⟨s, last, hs, hdenotes, hlt⟩
      exact ⟨last, ⟨s, hs, hdenotes⟩, hlt⟩
  · intro core s hpadded
    exact isDue_padded hpadded
  · intro force w id store hready hacts hup hwrite
    exact get?_lastReport_of_upload hready hacts hup hwrite
  · intro t
    rw [Decimal.trim_text, Decimal.readInteger_text]
  · intro later hle hdue
    exact isDue_mono (Int64.le_iff_toInt_le.mp hle) hdue
  · intro shorter hle hdue
    exact isDue_of_shorter (Int64.le_iff_toInt_le.mp hle) hdue

/-- The greatest time there is, with a sign, two zeros and white space about it. -/
def farText : String := "\u00a0+009223372036854775807\u3000"

/-- From the greatest time to the least, and an upload an hour before a call. -/
theorem isDue_exact_far :
    leastInteger < (-9223372036854775807 : Int64).toInt ∧
      Decimal.Denotes (Text.trim farText).toList (9223372036854775807 : Int64).toInt ∧
      isDue (-9223372036854775808) (some farText) (-9223372036854775807) = false ∧
      Text.Padded "+009223372036854775807" farText ∧
      isDue (-9223372036854775808) (some "+009223372036854775807") (-9223372036854775807) = false ∧
      Ready (fresh : Database) ∧
      .report "id" ∈ (report 3600000 true (workingWorld 0 1000) (fresh : Database)).acts ∧
      get? (report 3600000 true (workingWorld 0 1000) (fresh : Database)).store lastReportKey
        = some "1000" ∧
      Decimal.readInteger (Text.trim "1000") = .ok 1000 ∧
      isDue 3601000 (some "1000") 3600000 = true ∧ isDue 3602000 (some "1000") 3600000 = true ∧
      isDue 3601000 (some "1000") 3000000 = true := by
  have hmin : leastInteger < (-9223372036854775807 : Int64).toInt := by decide
  have hpadded : Text.Padded "+009223372036854775807" farText :=
    Text.padded_of_all ['\u00a0'] ['\u3000'] rfl rfl rfl
  have hnumeral : Decimal.Numeral "009223372036854775807".toList :=
    ⟨by simp, List.all_eq_true.mp rfl⟩
  have hdenotes : Decimal.Denotes (Text.trim farText).toList
      (9223372036854775807 : Int64).toInt := by
    rw [hpadded.trim_eq]
    exact .plus hnumeral
  obtain ⟨hexact, hspace, -⟩ :=
    isDue_exact Database (-9223372036854775808) (-9223372036854775807) (some farText)
  have hfar : isDue (-9223372036854775808) (some farText) (-9223372036854775807) = false :=
    (hexact hmin).mpr ⟨_, _, rfl, hdenotes, by decide⟩
  have hready : Ready (fresh : Database) := rfl
  have hacts : .report "id" ∈ (report 3600000 true (workingWorld 0 1000) (fresh : Database)).acts :=
    .tail _ (.head _)
  have htext : Decimal.text (1000 : Int64).toInt = "1000" := by decide +kernel
  have hdue : isDue 3601000 (some "1000") 3600000 = true := by decide +kernel
  obtain ⟨-, -, hstored, hback, hlater, hshorter⟩ :=
    isDue_exact Database 3601000 3600000 (some "1000")
  exact ⟨hmin, hdenotes, hfar, hpadded, (hspace _ _ hpadded).symm.trans hfar, hready, hacts,
    htext ▸ hstored true _ "id" _ hready hacts rfl (by decide), htext ▸ hback 1000, hdue,
    hlater 3602000 (by decide) hdue, hshorter 3000000 (by decide) hdue⟩

/-- For the least interval an upload is due although less time than that has passed. -/
example : isDue (-9223372036854775808) (some "1") (-9223372036854775808) = true := by
  decide +kernel

end HealthBoard.Throttle
