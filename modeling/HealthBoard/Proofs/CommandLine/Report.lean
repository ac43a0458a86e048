/-
Reporting this machine from the command line.

A run that is told to report gets as far as it can: it needs settings that make sense, then a state
file that can be opened, then settings that want reports, and last a machine that shows an id where
one is collected.  Where it stops it complains, and nothing is sent.  The first two stops leave the
disk as it was, the last two leave every key as it was.  If nothing stops it, the throttle is called
once, in the store that the state file holds, and what it answers is printed (`ReportsOnce`).

Runs share nothing but the disk.  A run that calls the throttle writes the store back, and the next
one finds it as it was left, so the store that a run meets is the one that a single throttle would
have come to by the calls before it (`opensAt_first`).
-/
import HealthBoard.CommandLine.Launch
import HealthBoard.Proofs.CommandLine.StateFile
import HealthBoard.Proofs.Except

namespace HealthBoard

open KeyValueStore (get?)

/-- How the settings have a machine reported, if they want it reported. -/
def Settings.reporting (s : Settings) : Reporting :=
  ⟨s.gateway.gateway, s.fingerprint.reportInterval⟩

theorem Settings.reporting?_of_enabled {s : Settings} (h : s.fingerprint.enabled = true) :
    s.reporting? = some s.reporting := if_pos h

theorem Settings.reporting?_of_disabled {s : Settings} (h : s.fingerprint.enabled = false) :
    s.reporting? = none := if_neg (by simp [h])

namespace CommandLine

/-! ### What is told -/

/-- The arguments that name settings and tell to report. -/
def reportArguments (name : String) (force : Bool) : List String :=
  ["--config=" ++ name, "report-fingerprint"] ++ if force then ["--force"] else []

theorem toList_named (name : String) : ("--config=" ++ name).toList
    = '-' :: '-' :: 'c' :: 'o' :: 'n' :: 'f' :: 'i' :: 'g' :: '=' :: name.toList := by
  rw [String.toList_append]
  rfl

theorem longFlag?_named (name : String) :
    longFlag? ("--config=" ++ name) = some ("config", some name) := by
  rw [longFlag?, toList_named]
  simp

theorem ne_named {word name : String} (h : word.toList.take 3 ≠ ['-', '-', 'c']) :
    "--config=" ++ name ≠ word := by
  intro heq
  rw [← heq, toList_named] at h
  exact h rfl

theorem leadsTo_named (name : String) : program.leadsTo ("--config=" ++ name) = false := by
  have hserve : "--config=" ++ name ≠ "serve" := ne_named (by decide)
  have hreport : "--config=" ++ name ≠ "report-fingerprint" := ne_named (by decide)
  have hhelp : "--config=" ++ name ≠ "help" := ne_named (by decide)
  simp [Command.leadsTo, program, commands, Ne.symm hserve, Ne.symm hreport, Ne.symm hhelp]

theorem read_named (name : String) (rest : List String) :
    program.read commands (("--config=" ++ name) :: "report-fingerprint" :: rest) {}
      = .ok (⟨[(settingsFlag, name)], none⟩, some ("report-fingerprint", rest)) := by
  have hdashes : "--config=" ++ name ≠ "--" := ne_named (by decide)
  have hflag : program.readLong commands "config" (some name) ("report-fingerprint" :: rest) {}
      = .ok ⟨[(settingsFlag, name)], none⟩ := rfl
  have hcommand : program.leadsTo "report-fingerprint" = true := by decide
  rw [Command.read]
  simp [leadsTo_named, hdashes, longFlag?_named, hflag, bind, Except.bind]
  rw [Command.read]
  simp [Progress.isWaiting, hcommand, pure, Except.pure]

/-- The arguments say what they are meant to say. -/
theorem ofArguments_reportArguments (name : String) (force : Bool) :
    Order.ofArguments (reportArguments name force) = .ok ⟨name, .reportFingerprint force⟩ := by
  have htask : taskOf "report-fingerprint" (if force then ["--force"] else [])
      = .ok (.reportFingerprint force) := by
    cases force <;> rfl
  rw [Order.ofArguments, reportArguments, List.cons_append, List.singleton_append, read_named]
  simp [htask, bind, Except.bind, pure, Except.pure, Progress.settle]

/-- The settings make sense, and are those of a name on the disk and of the environment. -/
def Configured (name : String) (m : Machine) (disk : Disk) (s : Settings) : Prop :=
  Settings.load (disk.settingsFile? m.readers name) m.environment = .ok s ∧ s.validate = .ok ()

/-! ### How a run ends -/

/-- The run ends with an error, and nothing was printed or sent. -/
structure Fails (fault : RunFault) (result : Result) : Prop where
  ending : result.ending = .failed fault
  code : result.ending.code = 1
  output : result.ending.output = ""
  complaint : result.ending.complaint = fault.text
  received : result.received = []

/-- What is printed for the answer of the throttle. -/
def printed : Option String → String
  | some id => id ++ "\n"
  | none => "no fingerprint reported yet\n"

/-- The run ends well, and prints the answer. -/
structure Succeeds (answer : Option String) (result : Result) : Prop where
  ending : result.ending = .reported answer
  code : result.ending.code = 0
  output : result.ending.output = printed answer
  complaint : result.ending.complaint = ""

/-- The call of the throttle in a store. -/
def call (s : Settings) (m : Machine) (force : Bool) (store : Database) :
    Throttle.Outcome Database :=
  Throttle.report s.fingerprint.reportInterval force (s.reporting.world m.moment) store

/-- The throttle is called once, and the run ends as the call does. -/
structure CallsOnce (s : Settings) (m : Machine) (force : Bool) (store : Database) (before : Disk)
    (result : Result) : Prop where
  /-- A collection that fails is the end of it. -/
  failed : ∀ fault, .collect ∈ (call s m force store).acts → m.host.collect = .error fault →
    Fails (.collection fault) result ∧
      ∀ key, result.disk.stored? s.database.path key = before.stored? s.database.path key
  /-- Anything else ends well, with the answer of the call. -/
  succeeded : (∀ fault, .collect ∈ (call s m force store).acts → m.host.collect ≠ .error fault) →
    ∃ answer, (call s m force store).result = .ok answer ∧ Succeeds answer result
  /-- An id that was uploaded is printed, whatever came of the upload. -/
  uploaded : ∀ id, .report id ∈ (call s m force store).acts → Succeeds (some id) result
  /-- What is sent are the uploads of the call. -/
  received : result.received = s.reporting.received m.moment (call s m force store).acts
  /-- The state file holds what the call leaves. -/
  stored : Disk.isInMemory s.database.path = false → ∀ key,
    result.disk.stored? s.database.path key = get? (call s m force store).store key

/-- What comes of a run that is told to report, by the disk that it meets. -/
structure ReportsOnce (name : String) (m : Machine) (force : Bool) (before : Disk)
    (result : Result) : Prop where
  unloaded : ∀ fault,
    Settings.load (before.settingsFile? m.readers name) m.environment = .error fault →
    Fails (.settings fault) result ∧ result.disk = before
  senseless : ∀ s nonsense,
    Settings.load (before.settingsFile? m.readers name) m.environment = .ok s →
    s.validate = .error nonsense → Fails (.senseless nonsense) result ∧ result.disk = before
  unopened : ∀ s, Configured name m before s → (∀ store, ¬ before.Opens s.database.path store) →
    (∃ fault, Fails (.database fault) result) ∧ result.disk = before
  disabled : ∀ s store, Configured name m before s → before.Opens s.database.path store →
    s.fingerprint.enabled = false → Fails .reportingDisabled result ∧
      ∀ key, result.disk.stored? s.database.path key = before.stored? s.database.path key
  called : ∀ s store, Configured name m before s → before.Opens s.database.path store →
    s.fingerprint.enabled = true → CallsOnce s m force store before result

/-! ### Runs that share a state file -/

/-- The disk after some runs. -/
def diskAfter : Disk → List (List String × Machine) → Disk
  | disk, [] => disk
  | disk, (arguments, m) :: rest => diskAfter (run arguments m disk).disk rest

/-- The run is told to report, and any settings that it finds keep the state at this place and want
a report this often. -/
def ReportsBy (place : List String) (interval : Int64) (disk : Disk) (arguments : List String)
    (m : Machine) : Prop :=
  ∃ name force, Order.ofArguments arguments = .ok ⟨name, .reportFingerprint force⟩ ∧
    ∀ s, Configured name m disk s → Disk.isInMemory s.database.path = false ∧
      disk.follow s.database.path = place ∧
      (s.fingerprint.enabled = true → s.fingerprint.reportInterval = interval)

/-- All runs report, and they share a state file and an interval. -/
def ShareState (place : List String) (interval : Int64) :
    Disk → List (List String × Machine) → Prop
  | _, [] => True
  | disk, (arguments, m) :: rest =>
    ReportsBy place interval disk arguments m ∧
      ShareState place interval (run arguments m disk).disk rest

/-- The run gets as far as calling the throttle, and this is the call. -/
inductive Calls (disk : Disk) (arguments : List String) (m : Machine) : Throttle.Step → Prop where
  | call {name : String} {force : Bool} {s : Settings} {store : Database}
      (horder : Order.ofArguments arguments = .ok ⟨name, .reportFingerprint force⟩)
      (hsettings : Configured name m disk s) (hopens : disk.Opens s.database.path store)
      (henabled : s.fingerprint.enabled = true) :
      Calls disk arguments m (.report force (s.reporting.world m.moment))

/-- The calls of the throttle that some runs make. -/
inductive Called : Disk → List (List String × Machine) → List Throttle.Step → Prop where
  | nil {disk : Disk} : Called disk [] []
  | call {disk : Disk} {arguments : List String} {m : Machine} {step : Throttle.Step}
      {rest : List (List String × Machine)} {steps : List Throttle.Step}
      (hcall : Calls disk arguments m step)
      (hrest : Called (run arguments m disk).disk rest steps) :
      Called disk ((arguments, m) :: rest) (step :: steps)
  | stopped {disk : Disk} {arguments : List String} {m : Machine}
      {rest : List (List String × Machine)} {steps : List Throttle.Step}
      (hnone : ∀ step, ¬ Calls disk arguments m step)
      (hrest : Called (run arguments m disk).disk rest steps) :
      Called disk ((arguments, m) :: rest) steps

/-! ### One run -/

section Run

variable {arguments : List String} {name : String} {force : Bool} {m : Machine} {disk : Disk}
  {s : Settings} {store : Database}

theorem fails_of {fault : RunFault} {result : Result} (hending : result.ending = .failed fault)
    (hreceived : result.received = []) (hmaking : ∀ f, fault ≠ .making f) : Fails fault result where
  ending := hending
  code := by
    rw [hending]
    cases fault with
    | making f => exact absurd rfl (hmaking f)
    | _ => rfl
  output := by
    rw [hending]
    rfl
  complaint := by
    rw [hending]
    rfl
  received := hreceived

theorem succeeds_of {answer : Option String} {result : Result}
    (hending : result.ending = .reported answer) : Succeeds answer result where
  ending := hending
  code := by
    rw [hending]
    rfl
  output := by
    rw [hending]
    cases answer with
    | none => rfl
    | some id => rfl
  complaint := by
    rw [hending]
    rfl

theorem settingsOf_of_configured (hs : Configured name m disk s) :
    settingsOf name m disk = .ok s := by
  obtain ⟨hload, hvalid⟩ := hs
  rw [settingsOf, hload]
  show (s.validate.mapError RunFault.senseless >>= _) = _
  rw [hvalid]
  rfl

theorem configured_of_settingsOf (h : settingsOf name m disk = .ok s) :
    Configured name m disk s := by
  obtain ⟨s', hload, h⟩ := exists_of_bind_eq_ok h
  obtain ⟨_, hvalid, h⟩ := exists_of_bind_eq_ok h
  cases h
  exact ⟨eq_ok_of_mapError hload, eq_ok_of_mapError hvalid⟩

theorem settingsOf_of_unloaded {fault : SettingsFault}
    (h : Settings.load (disk.settingsFile? m.readers name) m.environment = .error fault) :
    settingsOf name m disk = .error (.settings fault) := by
  rw [settingsOf, h]
  rfl

theorem settingsOf_of_senseless {nonsense : Settings.Nonsense}
    (hload : Settings.load (disk.settingsFile? m.readers name) m.environment = .ok s)
    (hvalid : s.validate = .error nonsense) :
    settingsOf name m disk = .error (.senseless nonsense) := by
  rw [settingsOf, hload]
  show (s.validate.mapError RunFault.senseless >>= _) = _
  rw [hvalid]
  rfl

theorem prepare_of_refused {fault : RunFault} (h : settingsOf name m disk = .error fault) :
    prepare name m disk = .error fault := by
  rw [prepare, h]
  rfl

theorem prepare_of_unopened {fault : DatabaseFault} (hs : Configured name m disk s)
    (h : disk.openDatabase s.database.path = .error fault) :
    prepare name m disk = .error (.database fault) := by
  rw [prepare, settingsOf_of_configured hs]
  show ((disk.openDatabase s.database.path).mapError RunFault.database >>= _) = _
  rw [h]
  rfl

theorem prepare_of_opens (hs : Configured name m disk s)
    (hopens : disk.Opens s.database.path store) :
    prepare name m disk = .ok (s, store) := by
  rw [prepare, settingsOf_of_configured hs]
  show ((disk.openDatabase s.database.path).mapError RunFault.database >>= _) = _
  rw [Disk.openDatabase_eq_ok_iff.mpr hopens]
  rfl

/-- A run that is not prepared ends there, and writes nothing. -/
theorem run_of_unprepared {fault : RunFault}
    (horder : Order.ofArguments arguments = .ok ⟨name, .reportFingerprint force⟩)
    (h : prepare name m disk = .error fault) :
    run arguments m disk = { ending := .failed fault, disk } := by
  rw [run, horder]
  show perform ⟨name, .reportFingerprint force⟩ m disk = _
  rw [perform, h]

theorem run_of_opens
    (horder : Order.ofArguments arguments = .ok ⟨name, .reportFingerprint force⟩)
    (hs : Configured name m disk s) (hopens : disk.Opens s.database.path store) :
    run arguments m disk = reportOnce s m force disk store := by
  rw [run, horder]
  show perform ⟨name, .reportFingerprint force⟩ m disk = _
  rw [perform, prepare_of_opens hs hopens]

theorem reportOnce_of_disabled (hdisabled : s.fingerprint.enabled = false) :
    reportOnce s m force disk store
      = { ending := .failed .reportingDisabled
          disk := disk.withDatabase s.database.path store } := by
  rw [reportOnce, Settings.reporting?_of_disabled hdisabled]

theorem reportOnce_of_enabled (henabled : s.fingerprint.enabled = true) :
    reportOnce s m force disk store
      = { ending := match (call s m force store).result with
            | .ok visitorId => .reported visitorId
            | .error fault => .failed (.collection fault)
          disk := disk.withDatabase s.database.path (call s m force store).store
          received := s.reporting.received m.moment (call s m force store).acts } := by
  rw [reportOnce, Settings.reporting?_of_enabled henabled]
  rfl

/-- A run that calls the throttle ends as the call does. -/
theorem callsOnce_reportOnce (hopens : disk.Opens s.database.path store)
    (henabled : s.fingerprint.enabled = true) :
    CallsOnce s m force store disk (reportOnce s m force disk store) := by
  rw [reportOnce_of_enabled henabled]
  have hstored : Disk.isInMemory s.database.path = false → ∀ key,
      (disk.withDatabase s.database.path (call s m force store).store).stored? s.database.path key
        = get? (call s m force store).store key :=
    fun hdisk key => Disk.stored?_withDatabase hdisk key
  rcases Throttle.report_cases s.fingerprint.reportInterval force (s.reporting.world m.moment) store
    with ⟨-, ho⟩ | ⟨-, fault, hfault, ho⟩ | ⟨-, id, hid, ho⟩
  · have hcall : call s m force store
        = ⟨.ok (Throttle.read m.faults store Throttle.visitorIdKey), [], store⟩ := ho
    rw [hcall] at hstored ⊢
    exact {
      failed := by simp [hcall]
      succeeded := fun _ => ⟨_, by rw [hcall], succeeds_of rfl⟩
      uploaded := by simp [hcall]
      received := by rw [hcall]
      stored := by rw [hcall]; exact hstored }
  · have hcall : call s m force store = ⟨.error fault, [.collect], store⟩ := ho
    have hkept : ∀ key, (disk.withDatabase s.database.path store).stored? s.database.path key
        = disk.stored? s.database.path key :=
      fun key => hopens.stored?_withDatabase (fun _ => rfl) key
    rw [hcall] at hstored ⊢
    exact {
      failed := by
        intro other _ hother
        cases hfault.symm.trans hother
        exact ⟨fails_of rfl rfl (fun f h => by cases h), hkept⟩
      succeeded := fun h => absurd hfault (h fault (by simp [hcall]))
      uploaded := by simp [hcall]
      received := by rw [hcall]
      stored := by rw [hcall]; exact hstored }
  · have hcall : call s m force store = ⟨.ok (some id), [.collect, .report id],
        Throttle.keep (s.reporting.world m.moment) id store⟩ := ho
    rw [hcall] at hstored ⊢
    exact {
      failed := by
        intro fault _ hfault
        cases hfault.symm.trans hid
      succeeded := fun _ => ⟨_, by rw [hcall], succeeds_of rfl⟩
      uploaded := by
        intro other hother
        have hsame : other = id := by simpa [hcall] using hother
        rw [hsame]
        exact succeeds_of rfl
      received := by rw [hcall]
      stored := by rw [hcall]; exact hstored }

/-- **A run that is told to report gets as far as it can.** -/
theorem reportsOnce_run
    (horder : Order.ofArguments arguments = .ok ⟨name, .reportFingerprint force⟩) :
    ReportsOnce name m force disk (run arguments m disk) where
  unloaded := by
    intro fault hload
    rw [run_of_unprepared horder (prepare_of_refused (settingsOf_of_unloaded hload))]
    exact ⟨fails_of rfl rfl (fun f h => by cases h), rfl⟩
  senseless := by
    intro s nonsense hload hvalid
    rw [run_of_unprepared horder (prepare_of_refused (settingsOf_of_senseless hload hvalid))]
    exact ⟨fails_of rfl rfl (fun f h => by cases h), rfl⟩
  unopened := by
    intro s hs hnone
    obtain ⟨fault, hfault⟩ := Disk.exists_fault_of_not_opens hnone
    rw [run_of_unprepared horder (prepare_of_unopened hs hfault)]
    exact ⟨⟨fault, fails_of rfl rfl (fun f h => by cases h)⟩, rfl⟩
  disabled := by
    intro s store hs hopens hdisabled
    rw [run_of_opens horder hs hopens, reportOnce_of_disabled hdisabled]
    exact ⟨fails_of rfl rfl (fun f h => by cases h),
      fun key => hopens.stored?_withDatabase (fun _ => rfl) key⟩
  called := by
    intro s store hs hopens henabled
    rw [run_of_opens horder hs hopens]
    exact callsOnce_reportOnce hopens henabled

end Run

/-! ### Runs one after the other -/

theorem runAll_getElem? {arguments : List String} {m : Machine}
    {future : List (List String × Machine)} : ∀ {past : List (List String × Machine)} {disk : Disk},
      (runAll (past ++ (arguments, m) :: future) disk)[past.length]?
        = some (run arguments m (diskAfter disk past)) := by
  intro past
  induction past with
  | nil => intro disk; rfl
  | cons first rest ih => intro disk; exact ih

/-- Every sequence of runs makes its calls. -/
theorem exists_called (runs : List (List String × Machine)) :
    ∀ disk : Disk, ∃ steps, Called disk runs steps := by
  induction runs with
  | nil => intro disk; exact ⟨[], .nil⟩
  | cons first rest ih =>
      intro disk
      obtain ⟨arguments, m⟩ := first
      obtain ⟨steps, hrest⟩ := ih (run arguments m disk).disk
      by_cases hcall : ∃ step, Calls disk arguments m step
      · obtain ⟨step, hstep⟩ := hcall
        exact ⟨step :: steps, .call hstep hrest⟩
      · exact ⟨steps, .stopped (fun step hstep => hcall ⟨step, hstep⟩) hrest⟩

section Sharing

variable {place : List String} {interval : Int64} {disk : Disk} {arguments : List String}
  {m : Machine} {store : Database}

theorem shareState_append {later : List (List String × Machine)} :
    ∀ {earlier : List (List String × Machine)} {disk : Disk},
      ShareState place interval disk (earlier ++ later) ↔
        ShareState place interval disk earlier ∧
          ShareState place interval (diskAfter disk earlier) later := by
  intro earlier
  induction earlier with
  | nil => intro disk; exact (true_and _).to_iff.symm
  | cons first rest ih =>
      intro disk
      obtain ⟨arguments, m⟩ := first
      show _ ∧ ShareState _ _ _ (rest ++ later) ↔ (_ ∧ ShareState _ _ _ rest) ∧ _
      rw [ih, and_assoc]
      rfl

/-- After a call the place holds the store that the call left. -/
theorem opensAt_run_of_calls {step : Throttle.Step}
    (hreports : ReportsBy place interval disk arguments m)
    (hcalls : Calls disk arguments m step) :
    ∃ store, disk.OpensAt place store ∧
      (run arguments m disk).disk.OpensAt place (Throttle.step interval store step).2.2 := by
  obtain ⟨name, force, horder, hall⟩ := hreports
  cases hcalls with
  | call horder' hs hopens henabled =>
      cases horder.symm.trans horder'
      obtain ⟨hdisk, rfl, hinterval⟩ := hall _ hs
      have hopensAt := hopens.opensAt hdisk
      refine ⟨_, hopensAt, ?_⟩
      rw [run_of_opens horder hs hopens, reportOnce_of_enabled henabled, ← hinterval henabled]
      exact Disk.opensAt_withDatabase hdisk (hopensAt.isCurrent.report _ _ _)

/-- A run that makes no call leaves the place with the store that it held. -/
theorem opensAt_of_run_of_not_calls (hreports : ReportsBy place interval disk arguments m)
    (hnone : ∀ step, ¬ Calls disk arguments m step)
    (h : (run arguments m disk).disk.OpensAt place store) : disk.OpensAt place store := by
  obtain ⟨name, force, horder, hall⟩ := hreports
  cases hsettings : settingsOf name m disk with
  | error fault =>
      rw [run_of_unprepared horder (prepare_of_refused hsettings)] at h
      exact h
  | ok s =>
      have hs := configured_of_settingsOf hsettings
      obtain ⟨hdisk, rfl, -⟩ := hall s hs
      cases hopen : disk.openDatabase s.database.path with
      | error fault =>
          rw [run_of_unprepared horder (prepare_of_unopened hs hopen)] at h
          exact h
      | ok held =>
          have hopens := Disk.openDatabase_eq_ok_iff.mp hopen
          have hopensAt := hopens.opensAt hdisk
          cases henabled : s.fingerprint.enabled with
          | true => exact absurd (.call horder hs hopens henabled) (hnone _)
          | false =>
              rw [run_of_opens horder hs hopens, reportOnce_of_disabled henabled] at h
              have hsame := (Disk.opensAt_withDatabase hdisk hopensAt.isCurrent).unique h
              rw [← hsame]
              exact hopensAt

/--
**The store that a run meets is the one that the calls before it lead to.**  The induction is on the
runs; each finds the store as the one before it left it, since what is up to date is not changed by
being opened.
-/
theorem opensAt_first {runs : List (List String × Machine)} {steps : List Throttle.Step}
    (hcalled : Called disk runs steps) :
    ∀ {store : Database}, ShareState place interval disk runs →
      (diskAfter disk runs).OpensAt place store →
        ∃ first, disk.OpensAt place first ∧ store = Throttle.after interval first steps := by
  induction hcalled with
  | nil => intro store _ h; exact ⟨store, h, rfl⟩
  | call hcall hrest ih =>
      intro store hshare h
      obtain ⟨met, hmet, hleft⟩ := opensAt_run_of_calls hshare.1 hcall
      obtain ⟨next, hnext, hstore⟩ := ih hshare.2 h
      rw [hnext.unique hleft] at hstore
      exact ⟨met, hmet, hstore⟩
  | stopped hnone hrest ih =>
      intro store hshare h
      obtain ⟨first, hfirst, hstore⟩ := ih hshare.2 h
      exact ⟨first, opensAt_of_run_of_not_calls hshare.1 hnone hfirst, hstore⟩

end Sharing

/--
**Runs that report do what one throttle would.**  A run that is told to report gets as far as its
settings, its state file and the machine let it, and if nothing stops it, it calls the throttle once
and prints the answer.  Among runs that share a state file and an interval, the call is the one that
a single throttle would make that had opened the file before the first of them.
-/
theorem runAll_reports (disk : Disk) (past future : List (List String × Machine))
    {arguments : List String} {name : String} {force : Bool} (m : Machine)
    (horder : Order.ofArguments arguments = .ok ⟨name, .reportFingerprint force⟩) :
    ∃ result, (runAll (past ++ (arguments, m) :: future) disk)[past.length]? = some result ∧
      ReportsOnce name m force (diskAfter disk past) result ∧
      ∀ place interval, ShareState place interval disk (past ++ [(arguments, m)]) →
        (∃ steps, Called disk past steps) ∧
        ∀ steps, Called disk past steps →
          ∀ s store, Configured name m (diskAfter disk past) s →
            (diskAfter disk past).Opens s.database.path store → s.fingerprint.enabled = true →
            ∃ first, disk.OpensAt place first ∧
              CallsOnce s m force (Throttle.after interval first steps) (diskAfter disk past)
                result := by
  have honce : ReportsOnce name m force (diskAfter disk past)
      (run arguments m (diskAfter disk past)) := reportsOnce_run horder
  refine ⟨_, runAll_getElem?, honce, ?_⟩
  intro place interval hshare
  obtain ⟨hpast, hreports, -⟩ := shareState_append.mp hshare
  refine ⟨exists_called past disk, ?_⟩
  intro steps hcalled s store hs hopens henabled
  obtain ⟨name', force', horder', hall⟩ := hreports
  cases horder.symm.trans horder'
  obtain ⟨hdisk, rfl, hinterval⟩ := hall s hs
  obtain ⟨first, hfirst, hstore⟩ := opensAt_first hcalled hpast (hopens.opensAt hdisk)
  refine ⟨first, hfirst, ?_⟩
  rw [← hstore]
  exact honce.called s store hs hopens henabled

/-- A machine that shows its name, with its settings in the environment. -/
def plainMachine (path : String) (now : Int64) (exchange : Exchange) : Machine :=
  { environment := [("HOSTNAME", "oracle-host"),
      ("MODELPULSE__UPSTREAM__BASE_URL", "http://127.0.0.1:1"),
      ("MODELPULSE__DATABASE__PATH", path)]
    now
    later := now
    exchange }

/-- What is read from the settings of a run. -/
def wanted? (m : Machine) (disk : Disk) : Option (Option Unit × String × Bool × Int64) :=
  (Settings.load (disk.settingsFile? m.readers "config.toml") m.environment).toOption.map fun s =>
    (s.validate.toOption, s.database.path, s.fingerprint.enabled, s.fingerprint.reportInterval)

theorem configured_of_wanted? {m : Machine} {disk : Disk} {path : String} {enabled : Bool}
    {interval : Int64} (h : wanted? m disk = some (some (), path, enabled, interval)) :
    ∃ s, Configured "config.toml" m disk s ∧ s.database.path = path ∧
      s.fingerprint.enabled = enabled ∧ s.fingerprint.reportInterval = interval := by
  obtain ⟨s, hload, hparts⟩ := Option.map_eq_some_iff.mp h
  obtain ⟨hvalid, hparts⟩ := Prod.mk.inj hparts
  obtain ⟨hpath, hparts⟩ := Prod.mk.inj hparts
  obtain ⟨henabled, hinterval⟩ := Prod.mk.inj hparts
  exact ⟨s, ⟨eq_ok_of_toOption hload, eq_ok_of_toOption hvalid⟩, hpath, henabled, hinterval⟩

theorem Configured.unique {name : String} {m : Machine} {disk : Disk} {s s' : Settings}
    (h : Configured name m disk s) (h' : Configured name m disk s') : s' = s :=
  Except.ok.inj (h'.1.symm.trans h.1)

/-- A run is one of those that share a state file if its settings say so. -/
theorem reportsBy_of_wanted? {m : Machine} {disk : Disk} {path : String} {place : List String}
    {enabled : Bool} {interval : Int64}
    (h : wanted? m disk = some (some (), path, enabled, interval))
    (hdisk : Disk.isInMemory path = false) (hplace : disk.follow path = place) (force : Bool) :
    ReportsBy place interval disk (reportArguments "config.toml" force) m := by
  obtain ⟨s, hs, rfl, -, rfl⟩ := configured_of_wanted? h
  refine ⟨"config.toml", force, ofArguments_reportArguments _ _, ?_⟩
  intro s' hs'
  rw [hs.unique hs']
  exact ⟨hdisk, hplace, fun _ => rfl⟩

/-- A run that uploads. -/
def firstRun : List String × Machine :=
  (reportArguments "config.toml" true,
    plainMachine "state.db" 1700000000000 (.reply 200 (bytesOf "\x7b\"success\":true\x7d")))

/-- A run a minute later, when the gateway cannot be reached. -/
def secondRun : List String × Machine :=
  (reportArguments "config.toml" false, plainMachine "state.db" 1700000060000 .unreachable)

/-- The second run makes the call that a single throttle would make after the first: it sends
nothing, and prints the id that is kept. -/
theorem runAll_reports_twice :
    ShareState ["state.db"] 3600000 {} [firstRun, secondRun] ∧
      ∃ result s steps first answer, (runAll [firstRun, secondRun] {})[1]? = some result ∧
        Called {} [firstRun] steps ∧ ({} : Disk).OpensAt ["state.db"] first ∧
        (call s secondRun.2 false (Throttle.after 3600000 first steps)).result = .ok answer ∧
        Succeeds answer result ∧ result.received = [] := by
  have horder := ofArguments_reportArguments "config.toml"
  have hfirst : wanted? firstRun.2 {} = some (some (), "state.db", true, 3600000) := by
    decide +kernel
  have hsecond : (wanted? secondRun.2 (diskAfter {} [firstRun]),
      (diskAfter {} [firstRun]).follow "state.db",
      (run secondRun.1 secondRun.2 (diskAfter {} [firstRun])).received.isEmpty)
        = (some (some (), "state.db", true, 3600000), ["state.db"], true) := by
    decide +kernel
  obtain ⟨hwanted, hsecond⟩ := Prod.mk.inj hsecond
  obtain ⟨hfollow, hquiet⟩ := Prod.mk.inj hsecond
  have hcollect : secondRun.2.host.collect.toOption.isSome = true := by decide +kernel
  obtain ⟨id, hid⟩ := Option.isSome_iff_exists.mp hcollect
  have hshare : ShareState ["state.db"] 3600000 {} [firstRun, secondRun] :=
    ⟨reportsBy_of_wanted? hfirst rfl (by decide +kernel) true,
      reportsBy_of_wanted? hwanted rfl hfollow false, trivial⟩
  obtain ⟨result, hresult, -, hsharing⟩ :=
    runAll_reports {} [firstRun] [] secondRun.2 (horder false)
  obtain ⟨⟨steps, hsteps⟩, hcalls⟩ := hsharing ["state.db"] 3600000 hshare
  -- The first run calls the throttle, so the second finds its store.
  obtain ⟨s₁, hs₁, hpath₁, henabled₁, -⟩ := configured_of_wanted? hfirst
  have hopens₁ : ({} : Disk).Opens s₁.database.path KeyValueStore.fresh := by
    rw [hpath₁]
    have hplace : ({} : Disk).follow "state.db" = ["state.db"] := by decide +kernel
    have hopensAt : ({} : Disk).OpensAt ["state.db"] KeyValueStore.fresh := .absent rfl rfl
    exact .onDisk rfl (hplace ▸ hopensAt)
  obtain ⟨left, hleft⟩ : ∃ left, (diskAfter {} [firstRun]).OpensAt ["state.db"] left := by
    obtain ⟨_, -, hleft⟩ := opensAt_run_of_calls hshare.1 (.call (horder true) hs₁ hopens₁
      henabled₁)
    exact ⟨_, hleft⟩
  obtain ⟨s, hs, hpath, henabled, -⟩ := configured_of_wanted? hwanted
  have hopens : (diskAfter {} [firstRun]).Opens s.database.path left := by
    rw [hpath]
    exact .onDisk rfl (hfollow ▸ hleft)
  obtain ⟨first, hplace, honce⟩ := hcalls steps hsteps s left hs hopens henabled
  obtain ⟨answer, hanswer, hsucceeds⟩ := honce.succeeded fun fault _ hfault => by
    cases hfault.symm.trans (eq_ok_of_toOption hid)
  have hsame : result = run secondRun.1 secondRun.2 (diskAfter {} [firstRun]) :=
    Option.some.inj (hresult.symm.trans runAll_getElem?)
  refine ⟨hshare, result, s, steps, first, answer, hresult, hsteps, hplace, hanswer, hsucceeds, ?_⟩
  rw [hsame]
  exact List.isEmpty_iff.mp hquiet

/-- Settings that make sense and a machine that shows its name do not suffice: the folder of the
state file has to exist. -/
theorem run_unopened :
    ∃ s id, Configured "config.toml" (plainMachine "none/x.db" 1700000000000 .unreachable) {} s ∧
      s.fingerprint.enabled = true ∧
      (plainMachine "none/x.db" 1700000000000 .unreachable).host.collect = .ok id ∧
      (run ["report-fingerprint"] (plainMachine "none/x.db" 1700000000000 .unreachable)
        {}).ending.code = 1 ∧
      (run ["report-fingerprint"] (plainMachine "none/x.db" 1700000000000 .unreachable)
        {}).ending.output = "" := by
  have hwanted : wanted? (plainMachine "none/x.db" 1700000000000 .unreachable) {}
      = some (some (), "none/x.db", true, 3600000) := by
    decide +kernel
  have hcollect : (plainMachine "none/x.db" 1700000000000
      .unreachable).host.collect.toOption.isSome = true := by
    decide +kernel
  obtain ⟨s, hs, hpath, henabled, -⟩ := configured_of_wanted? hwanted
  obtain ⟨id, hid⟩ := Option.isSome_iff_exists.mp hcollect
  have hclosed : (({} : Disk).openDatabase "none/x.db").toOption.isNone = true := by
    decide +kernel
  cases hopen : ({} : Disk).openDatabase "none/x.db" with
  | ok store =>
      rw [hopen] at hclosed
      cases hclosed
  | error fault =>
      have horder : Order.ofArguments ["report-fingerprint"]
          = .ok ⟨"config.toml", .reportFingerprint false⟩ := rfl
      rw [run_of_unprepared horder (prepare_of_unopened hs (hpath ▸ hopen))]
      exact ⟨s, id, hs, henabled, eq_ok_of_toOption hid, rfl, rfl⟩

end CommandLine

end HealthBoard
