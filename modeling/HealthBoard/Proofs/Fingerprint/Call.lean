/-
What one call of the throttle does, whatever goes wrong during it.

Two reads, two writes, the collection and the upload can each fail, and a call can be forced, due
or neither.  `report_cases` says once how a call goes: it is idle, or the collection fails, or what
was collected is kept and uploaded.  Everything else about a call is read off those three outcomes
and off the two keys of `keep`, the store after a collection that worked.

`Accounted` is the whole account of a call, with a field for each thing that can be seen of it: its
acts, its answer, and the store it leaves.
-/
import HealthBoard.Fingerprint.Throttle
import HealthBoard.Proofs.Fingerprint.Store

namespace HealthBoard.Throttle

open KeyValueStore (get? fresh)
open LawfulStore (Ready)

variable {σ : Type} [KeyValueStore σ]

/-! ### Reads and writes that may fail -/

theorem visitorIdKey_ne_lastReportKey : visitorIdKey ≠ lastReportKey := by decide

theorem read_of_mem {faults : Faults} {key : String} (h : key ∈ faults.reads) (store : σ) :
    read faults store key = none := by
  unfold read
  rw [if_pos (List.contains_iff_mem.mpr h)]

theorem read_of_not_mem {faults : Faults} {key : String} (h : key ∉ faults.reads) (store : σ) :
    read faults store key = get? store key := by
  unfold read
  rw [if_neg (fun hc => h (List.contains_iff_mem.mp hc))]

theorem write_of_mem {faults : Faults} {key : String} (h : key ∈ faults.writes) (store : σ)
    (value : String) : write faults store key value = store := by
  unfold write
  rw [if_pos (List.contains_iff_mem.mpr h)]

theorem write_of_not_mem {faults : Faults} {key : String} (h : key ∉ faults.writes) (store : σ)
    (value : String) : write faults store key value = KeyValueStore.set store key value := by
  unfold write
  rw [if_neg (fun hc => h (List.contains_iff_mem.mp hc))]

/-- The store after a collection: the id is kept, and the time if the upload worked. -/
def keep (w : World) (id : String) (store : σ) : σ :=
  match w.upload id with
  | .ok () => write w.faults (write w.faults store visitorIdKey id) lastReportKey
      (Decimal.text w.later.toInt)
  | .error _ => write w.faults store visitorIdKey id

/-! ### The three ways a call can go -/

/-- Whether a call collects: it is forced, or due by what can be read. -/
def collects (interval : Int64) (force : Bool) (w : World) (store : σ) : Bool :=
  force || isDue w.now (read w.faults store lastReportKey) interval

/-- A call that does not collect answers with the id that can be read. -/
theorem report_of_idle {interval : Int64} {force : Bool} {w : World} {store : σ}
    (h : collects interval force w store = false) :
    report interval force w store = ⟨.ok (read w.faults store visitorIdKey), [], store⟩ := by
  unfold collects at h
  unfold report
  rw [if_neg (by simp [h])]

/-- A collection that fails leaves the store as it was. -/
theorem report_of_failed {interval : Int64} {force : Bool} {w : World} {store : σ}
    {fault : CollectionFault} (h : collects interval force w store = true)
    (hfault : w.collected = .error fault) :
    report interval force w store = ⟨.error fault, [.collect], store⟩ := by
  unfold collects at h
  unfold report collectAndUpload
  rw [if_pos h, hfault]

/-- What was collected is the answer, whatever comes of its upload. -/
theorem report_of_collected {interval : Int64} {force : Bool} {w : World} {store : σ} {id : String}
    (h : collects interval force w store = true) (hid : w.collected = .ok id) :
    report interval force w store
      = ⟨.ok (some id), [.collect, .report id], keep w id store⟩ := by
  unfold collects at h
  unfold report
  rw [if_pos h]
  unfold collectAndUpload keep
  cases hup : w.upload id with
  | ok u => simp only [hid, hup]
  | error fault => simp only [hid, hup]

/-- **A call is idle, or fails in its collection, or keeps and uploads what it collected.** -/
theorem report_cases (interval : Int64) (force : Bool) (w : World) (store : σ) :
    (collects interval force w store = false ∧
      report interval force w store = ⟨.ok (read w.faults store visitorIdKey), [], store⟩) ∨
    (collects interval force w store = true ∧ ∃ fault, w.collected = .error fault ∧
      report interval force w store = ⟨.error fault, [.collect], store⟩) ∨
    (collects interval force w store = true ∧ ∃ id, w.collected = .ok id ∧
      report interval force w store
        = ⟨.ok (some id), [.collect, .report id], keep w id store⟩) := by
  cases hcol : collects interval force w store with
  | false => exact Or.inl ⟨rfl, report_of_idle hcol⟩
  | true =>
      refine Or.inr ?_
      cases hw : w.collected with
      | error fault => exact Or.inl ⟨rfl, fault, rfl, report_of_failed hcol hw⟩
      | ok id => exact Or.inr ⟨rfl, id, rfl, report_of_collected hcol hw⟩

theorem collects_eq_true_iff {interval : Int64} {force : Bool} {w : World} {store : σ} :
    collects interval force w store = true ↔
      force = true ∨ lastReportKey ∈ w.faults.reads ∨
        isDue w.now (get? store lastReportKey) interval = true := by
  unfold collects
  rw [Bool.or_eq_true]
  refine or_congr_right ?_
  by_cases h : lastReportKey ∈ w.faults.reads
  · rw [read_of_mem h]
    exact ⟨fun _ => Or.inl h, fun _ => rfl⟩
  · rw [read_of_not_mem h]
    exact ⟨Or.inr, fun hc => hc.resolve_left h⟩

/-! ### The store after a collection -/

variable [LawfulStore σ]

theorem get?_write_ne {key other : String} (h : other ≠ key) (faults : Faults) (store : σ)
    (value : String) : get? (write faults store key value) other = get? store other := by
  by_cases hf : key ∈ faults.writes
  · rw [write_of_mem hf]
  · rw [write_of_not_mem hf, LawfulStore.get?_set_ne h]

theorem ready_write {store : σ} (h : Ready store) (faults : Faults) (key value : String) :
    Ready (write faults store key value) := by
  by_cases hf : key ∈ faults.writes
  · rw [write_of_mem hf]
    exact h
  · rw [write_of_not_mem hf]
    exact LawfulStore.ready_set key value h

theorem ready_keep {store : σ} (h : Ready store) (w : World) (id : String) :
    Ready (keep w id store) := by
  unfold keep
  split
  · exact ready_write (ready_write h _ _ _) _ _ _
  · exact ready_write h _ _ _

/-- The id is kept unless its write fails, whatever becomes of the upload. -/
theorem get?_keep_visitorId {store : σ} (h : Ready store) (w : World) (id : String) :
    get? (keep w id store) visitorIdKey =
      if visitorIdKey ∈ w.faults.writes then get? store visitorIdKey else some id := by
  have hid : get? (write w.faults store visitorIdKey id) visitorIdKey =
      if visitorIdKey ∈ w.faults.writes then get? store visitorIdKey else some id := by
    by_cases hf : visitorIdKey ∈ w.faults.writes
    · rw [write_of_mem hf, if_pos hf]
    · rw [write_of_not_mem hf, if_neg hf, LawfulStore.get?_set_self _ _ h]
  unfold keep
  split
  · rw [get?_write_ne visitorIdKey_ne_lastReportKey, hid]
  · exact hid

/-- The time is kept if the upload worked and the write of the time did. -/
theorem get?_keep_lastReport {store : σ} (h : Ready store) {w : World} {id : String}
    (hup : w.upload id = .ok ()) (hf : lastReportKey ∉ w.faults.writes) :
    get? (keep w id store) lastReportKey = some (Decimal.text w.later.toInt) := by
  unfold keep
  rw [hup]
  show get? (write _ _ lastReportKey _) lastReportKey = _
  rw [write_of_not_mem hf, LawfulStore.get?_set_self _ _ (ready_write h _ _ _)]

/-- Else the time stays what it was. -/
theorem get?_keep_lastReport_of_not {store : σ} {w : World} {id : String}
    (hnot : ¬(w.upload id = .ok () ∧ lastReportKey ∉ w.faults.writes)) :
    get? (keep w id store) lastReportKey = get? store lastReportKey := by
  unfold keep
  split
  · rename_i hup
    by_cases hf : lastReportKey ∈ w.faults.writes
    · rw [write_of_mem hf, get?_write_ne visitorIdKey_ne_lastReportKey.symm]
    · exact absurd ⟨hup, hf⟩ hnot
  · rw [get?_write_ne visitorIdKey_ne_lastReportKey.symm]

theorem get?_keep_ne {key : String} (hid : key ≠ visitorIdKey) (htime : key ≠ lastReportKey)
    (w : World) (id : String) (store : σ) : get? (keep w id store) key = get? store key := by
  unfold keep
  split
  · rw [get?_write_ne htime, get?_write_ne hid]
  · rw [get?_write_ne hid]

/-! ### The whole account -/

/-- What can be seen of a call, given what the world did during it and the store it found. -/
structure Accounted (interval : Int64) (force : Bool) (w : World) (before : σ)
    (o : Outcome σ) : Prop where
  /-- Nothing, or a collection, or a collection and the upload of what was collected. -/
  acts : o.acts = [] ∨ o.acts = [.collect] ∨
    ∃ id, w.collected = .ok id ∧ o.acts = [.collect, .report id]
  /-- The host is looked at if the call is forced or due.  A time that cannot be read is none. -/
  collects_iff : .collect ∈ o.acts ↔ force = true ∨ lastReportKey ∈ w.faults.reads ∨
    isDue w.now (get? before lastReportKey) interval = true
  /-- A call fails exactly if it collects and the collection fails, and with the same fault. -/
  error_iff : ∀ fault, o.result = .error fault ↔
    .collect ∈ o.acts ∧ w.collected = .error fault
  /-- Then nothing was uploaded, and every key holds what it held. -/
  failed : ∀ fault, o.result = .error fault →
    o.acts = [.collect] ∧ ∀ key, get? o.store key = get? before key
  /-- An id that was collected is uploaded and answered, whatever the upload and the writes do. -/
  answered : ∀ id, .collect ∈ o.acts → w.collected = .ok id →
    o.acts = [.collect, .report id] ∧ o.result = .ok (some id)
  /-- It is kept unless its write fails. -/
  visitorId : ∀ id, .collect ∈ o.acts → w.collected = .ok id →
    get? o.store visitorIdKey =
      if visitorIdKey ∈ w.faults.writes then get? before visitorIdKey else some id
  /-- The time after the upload is kept if the upload worked and its write does not fail. -/
  lastReport : ∀ id, .collect ∈ o.acts → w.collected = .ok id → w.upload id = .ok () →
    lastReportKey ∉ w.faults.writes →
    get? o.store lastReportKey = some (Decimal.text w.later.toInt)
  /-- In every other case the time stays what it was. -/
  lastReport_kept : (∀ id, .collect ∈ o.acts → w.collected = .ok id → w.upload id = .ok () →
    lastReportKey ∈ w.faults.writes) → get? o.store lastReportKey = get? before lastReportKey
  /-- A call that does not collect does nothing, and answers with the id that is kept. -/
  idle : .collect ∉ o.acts → o.acts = [] ∧ (∀ key, get? o.store key = get? before key) ∧
    ∃ answer, o.result = .ok answer ∧
      (answer = none ↔ visitorIdKey ∈ w.faults.reads ∨ get? before visitorIdKey = none) ∧
      ∀ id, answer = some id → get? before visitorIdKey = some id
  /-- No other key is ever touched. -/
  frame : ∀ key, key ≠ visitorIdKey → key ≠ lastReportKey → get? o.store key = get? before key

omit [LawfulStore σ] in
/-- The id that is kept, as an idle call answers it. -/
theorem read_visitorId (faults : Faults) (store : σ) :
    (read faults store visitorIdKey = none ↔
        visitorIdKey ∈ faults.reads ∨ get? store visitorIdKey = none) ∧
      ∀ id, read faults store visitorIdKey = some id → get? store visitorIdKey = some id := by
  by_cases h : visitorIdKey ∈ faults.reads
  · rw [read_of_mem h]
    exact ⟨⟨fun _ => Or.inl h, fun _ => rfl⟩, by simp⟩
  · rw [read_of_not_mem h]
    exact ⟨⟨Or.inr, fun hc => hc.resolve_left h⟩, fun id hid => hid⟩

/--
**Every call is accounted for.**  Whatever is in the store, whichever reads and writes fail, forced
or not, and whatever comes of the collection and the upload: the acts, the answer and the store
afterwards are those that `Accounted` names.
-/
theorem report_accounted {before : σ} (h : Ready before) (interval : Int64) (force : Bool)
    (w : World) : Accounted interval force w before (report interval force w before) := by
  rcases report_cases interval force w before with
    ⟨hidle, ho⟩ | ⟨hcol, fault, hfault, ho⟩ | ⟨hcol, id, hid, ho⟩
  · have hnot : ¬(force = true ∨ lastReportKey ∈ w.faults.reads ∨
        isDue w.now (get? before lastReportKey) interval = true) := by
      rw [← collects_eq_true_iff, hidle]
      exact Bool.false_ne_true
    rw [ho]
    exact {
      acts := Or.inl rfl
      collects_iff := ⟨by simp, fun hc => absurd hc hnot⟩
      error_iff := by simp
      failed := by simp
      answered := by simp
      visitorId := by simp
      lastReport := by simp
      lastReport_kept := fun _ => rfl
      idle := fun _ => ⟨rfl, fun _ => rfl, _, rfl, read_visitorId w.faults before⟩
      frame := fun _ _ _ => rfl }
  · have hwhy := collects_eq_true_iff.mp hcol
    rw [ho]
    exact {
      acts := Or.inr (Or.inl rfl)
      collects_iff := ⟨fun _ => hwhy, fun _ => by simp⟩
      error_iff := fun other => by simp [hfault]
      failed := fun _ _ => ⟨rfl, fun _ => rfl⟩
      answered := by simp [hfault]
      visitorId := by simp [hfault]
      lastReport := by simp [hfault]
      lastReport_kept := fun _ => rfl
      idle := by simp
      frame := fun _ _ _ => rfl }
  · have hwhy := collects_eq_true_iff.mp hcol
    have hsame : ∀ other, w.collected = .ok other → other = id := by
      intro other hother
      rw [hid] at hother
      exact (Except.ok.inj hother).symm
    rw [ho]
    exact {
      acts := Or.inr (Or.inr ⟨id, hid, rfl⟩)
      collects_iff := ⟨fun _ => hwhy, fun _ => by simp⟩
      error_iff := fun fault => by simp [hid]
      failed := by simp
      answered := fun other _ hother => by rw [hsame other hother]; exact ⟨rfl, rfl⟩
      visitorId := fun other _ hother => by
        rw [hsame other hother]
        exact get?_keep_visitorId h w id
      lastReport := fun other _ hother hup hf => by
        rw [hsame other hother] at hup
        exact get?_keep_lastReport h hup hf
      lastReport_kept := fun hnone => get?_keep_lastReport_of_not fun hc =>
        hc.2 (hnone id (by simp) hid hc.1)
      idle := by simp
      frame := fun key hne hne' => get?_keep_ne hne hne' w id before }

/-- A world in which the time cannot be read, the id cannot be kept and the upload fails. -/
def brokenWorld : World :=
  { now := 5
    later := 7
    collected := .ok "fresh"
    upload := fun _ => .error .transport
    faults := { reads := [lastReportKey], writes := [visitorIdKey] } }

/-- Even so a call on a new database collects, uploads and answers, and leaves the store alone. -/
theorem report_accounted_broken :
    Ready (fresh : Database) ∧
      Accounted 3600000 false brokenWorld (fresh : Database)
        (report 3600000 false brokenWorld fresh) ∧
      (report 3600000 false brokenWorld (fresh : Database)).acts = [.collect, .report "fresh"] ∧
      (report 3600000 false brokenWorld (fresh : Database)).store = fresh :=
  ⟨rfl, report_accounted rfl 3600000 false brokenWorld, by decide, by rfl⟩

end HealthBoard.Throttle
