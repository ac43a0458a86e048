/-
A run of the program.

The arguments are read first, then the settings are loaded and validated, then the database is
opened, and only then is done what was told.  Each of these can end the run, and the later ones do
not happen then: settings that make no sense leave the database as it was.

What the program meets is an argument and what it leaves is a result, so that runs one after the
other, which share nothing but the disk, are a recursion over a list.
-/
import HealthBoard.CommandLine.Disk
import HealthBoard.CommandLine.Order
import HealthBoard.Dashboard.Board

namespace HealthBoard

/-- Why nothing can be listened for at an address. -/
inductive ListenFault where
  | addressInUse
  | addressNotAvailable
  | unknownHost
  deriving DecidableEq

namespace CommandLine

/-- What a run of the program meets. -/
structure Machine where
  /-- The variables of the environment. -/
  environment : List (String × String) := []
  /-- What the files that may hold the machine id hold. -/
  machineIdFiles : List (Option (List UInt8)) := []
  /-- The clock at the start of a report. -/
  now : Int64
  /-- That clock after a successful upload. -/
  later : Int64
  /-- What comes of the request to the gateway. -/
  exchange : Exchange
  /-- The keys of the state that cannot be read or written. -/
  faults : Throttle.Faults := {}
  /-- How settings are read that are neither JSON nor TOML; as it stands they are not. -/
  readers : Disk.SettingsReaders := fun ending _ _ => .error ("no reader of " ++ ending ++ " files")
  /-- Whether the address that requests are listened for at can be had. -/
  listening : ServerSettings → Except ListenFault Unit := fun _ => .ok ()

/-- The variables that may hold the host's name. -/
def hostNameVariables : List String := ["HOSTNAME", "COMPUTERNAME"]

def Machine.host (m : Machine) : Host :=
  ⟨m.machineIdFiles, hostNameVariables.map fun name => m.environment.lookup name⟩

/-- What a report meets. -/
def Machine.moment (m : Machine) : Reporting.Moment :=
  ⟨m.now, m.later, m.host.collect, m.exchange, m.faults⟩

/-- Why a run fails. -/
inductive RunFault where
  | settings (fault : SettingsFault)
  | senseless (nonsense : Settings.Nonsense)
  | database (fault : DatabaseFault)
  | reportingDisabled
  | collection (fault : CollectionFault)
  | making (fault : Dashboard.MakingFault)
  | listening (fault : ListenFault)

namespace RunFault

def called (name : String) (parts : List String) : String :=
  name ++ "(" ++ ", ".intercalate parts ++ ")"

/-- A failure of the database: what kind it is, by name and number, and what the database says. -/
def ofDatabase (kind : String) (number : Nat) (words : String) : String :=
  called "SqliteFailure"
    ["Error \x7b code: " ++ kind ++ ", extended_code: " ++ Decimal.text number ++ " \x7d",
      called "Some" [Text.quoted words]]

/-- A failure of the operating system: its number, what kind it is, and what the system says. -/
def ofSystem (number : Nat) (kind words : String) : String :=
  "Os \x7b code: " ++ Decimal.text number ++ ", kind: " ++ kind ++ ", message: " ++
    Text.quoted words ++ " \x7d"

/-- The fault in one line. -/
def line : RunFault → String
  | .settings fault => fault.message
  | .senseless nonsense => Text.quoted nonsense.message
  | .database (.cannotOpen path) =>
    called "Backend" [ofDatabase "CannotOpen" 14 ("unable to open database file: " ++ path)]
  | .database .foreign => ofDatabase "NotADatabase" 26 "file is not a database"
  | .reportingDisabled => Text.quoted "fingerprint reporting is disabled in config"
  | .collection (.unavailable reason) => called "Unavailable" [Text.quoted reason]
  | .collection (.failed reason) => called "Failed" [Text.quoted reason]
  | .making fault => Text.quoted fault.message
  | .listening .addressInUse => ofSystem 98 "AddrInUse" "Address already in use"
  | .listening .addressNotAvailable =>
    ofSystem 99 "AddrNotAvailable" "Cannot assign requested address"
  | .listening .unknownHost =>
    "Custom \x7b kind: Uncategorized, error: " ++
      Text.quoted "failed to lookup address information: Name or service not known" ++ " \x7d"

/-- All that is said of a fault. -/
def text (f : RunFault) : String :=
  (match f with
    | .senseless nonsense => "Configuration error: " ++ nonsense.message ++ "\n"
    | _ => "") ++ "Error: " ++ f.line ++ "\n"

end RunFault

/-- How a run ends. -/
inductive Ending where
  /-- Help was asked for, or the arguments are refused. -/
  | stopped (stop : Stop)
  | failed (fault : RunFault)
  /-- The report is done, and this is the id, if there is one. -/
  | reported (visitorId : Option String)
  /-- Requests are served by the dashboard of these settings, from this board on. -/
  | serving (settings : Settings) (dashboard : Dashboard) (board : Board Database)

/-- What a run leaves behind. -/
structure Result where
  ending : Ending
  disk : Disk
  received : List GatewayRequest := []

namespace Ending

/-- What is printed when no id was ever reported. -/
def nothingReported : String := "no fingerprint reported yet"

/-- What the program prints. -/
def output : Ending → String
  | .stopped (.help command) => command.help
  | .reported visitorId => visitorId.getD nothingReported ++ "\n"
  | _ => ""

/-- What the program complains about. -/
def complaint : Ending → String
  | .stopped (.refused refusal) => refusal.text
  | .failed fault => fault.text
  | _ => ""

/-- The number that the program ends with; when it serves, the one that it ends with when told to
stop. -/
def code : Ending → Nat
  | .stopped (.refused _) => 2
  | .failed (.making _) => 101
  | .failed _ => 1
  | _ => 0

end Ending

/-! ### The two tasks -/

/-- Reports the machine, once. -/
def reportOnce (s : Settings) (m : Machine) (force : Bool) (disk : Disk) (database : Database) :
    Result :=
  let path := s.database.path
  match s.reporting? with
  | none => { ending := .failed .reportingDisabled, disk := disk.withDatabase path database }
  | some r =>
    let o := r.report force m.moment database
    { ending := match o.result with
        | .ok visitorId => .reported visitorId
        | .error fault => .failed (.collection fault)
      disk := disk.withDatabase path o.store
      received := r.received m.moment o.acts }

/-- The report at the start of the dashboard, if there is one; that it fails does not matter. -/
def startupReport (s : Settings) (m : Machine) (database : Database) :
    List GatewayRequest × Database :=
  match s.fingerprint.reportOnStartup, s.reporting? with
  | true, some r =>
    let o := r.report false m.moment database
    (r.received m.moment o.acts, o.store)
  | _, _ => ([], database)

/-- Serves the dashboard, if it can be made and its address can be had. -/
def serve (s : Settings) (m : Machine) (disk : Disk) (database : Database) : Result :=
  let path := s.database.path
  let failed (fault : RunFault) : Result :=
    { ending := .failed fault, disk := disk.withDatabase path database }
  match s.dashboard, m.listening s.server with
  | .error fault, _ => failed (.making fault)
  | .ok _, .error fault => failed (.listening fault)
  | .ok dashboard, .ok () =>
    let (received, after) := startupReport s m database
    { ending := .serving s dashboard { store := after }
      disk := disk.withDatabase path after
      received }

/-! ### Runs -/

/-- The settings that a name leads to, if they are well formed and make sense. -/
def settingsOf (name : String) (m : Machine) (disk : Disk) : Except RunFault Settings := do
  let s ← (Settings.load (disk.settingsFile? m.readers name) m.environment).mapError .settings
  s.validate.mapError .senseless
  return s

/-- The settings and the database that they name. -/
def prepare (name : String) (m : Machine) (disk : Disk) :
    Except RunFault (Settings × Database) := do
  let s ← settingsOf name m disk
  let database ← (disk.openDatabase s.database.path).mapError .database
  return (s, database)

/-- Does what is told. -/
def perform (order : Order) (m : Machine) (disk : Disk) : Result :=
  match prepare order.settingsName m disk with
  | .error fault => { ending := .failed fault, disk }
  | .ok (s, database) =>
    match order.task with
    | .reportFingerprint force => reportOnce s m force disk database
    | .serve => serve s m disk database

/-- One run of the program. -/
def run (arguments : List String) (m : Machine) (disk : Disk) : Result :=
  match Order.ofArguments arguments with
  | .error stop => { ending := .stopped stop, disk }
  | .ok order => perform order m disk

/-- Runs of the program, one after the other. -/
def runAll : List (List String × Machine) → Disk → List Result
  | [], _ => []
  | (arguments, m) :: rest, disk =>
    let result := run arguments m disk
    result :: runAll rest result.disk

end CommandLine
end HealthBoard
