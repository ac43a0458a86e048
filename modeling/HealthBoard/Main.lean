/-
The program.

What it does is said elsewhere.  Here the disk is read and written, requests travel, and signals
end the server.  Before a run can be worked out it has to be known what comes of its request to
the gateway, if it makes one.  So it is worked out twice: once as if no reply came, to see what
would be asked, and then with the reply.
-/
import HealthBoard.CommandLine.Launch
import HealthBoard.CommandLine.StateFile
import HealthBoard.Gateway.Message
import Std.Async.DNS
import Std.Async.Signal
import Std.Async.Timer
import Std.Http.Server
import Std.Time.DateTime.Timestamp

namespace HealthBoard.Program

open Std Async

/-! ### Time and connections -/

/-- The time, in milliseconds since the epoch. -/
def milliseconds : IO Int64 := do
  return Int64.ofInt (← Time.Timestamp.now).toMillisecondsSinceUnixEpoch.val

/-- The address of a host. -/
def addressOf (host : String) (portNumber : UInt16) : Async (Option Net.SocketAddress) := do
  try
    match (← DNS.getAddrInfo host (Decimal.text portNumber.toNat)).toList with
    | .v4 addr :: _ => return some (.v4 ⟨addr, portNumber⟩)
    | .v6 addr :: _ => return some (.v6 ⟨addr, portNumber⟩)
    | [] => return none
  catch _ => return none

/-- All that comes back until the connection ends. -/
partial def receive (socket : TCP.Socket.Client) (soFar : ByteArray) : Async ByteArray := do
  match ← socket.recv? 65536 with
  | some bytes => receive socket (soFar ++ bytes)
  | none => return soFar

/-- Sends a request, and waits for the bytes that come back, if it gets there. -/
def bytesBack (r : GatewayRequest) : Async (Except Exchange (List UInt8)) := do
  match r.address.scheme == "http".toList, r.address.authority with
  | true, some authority =>
    let host := match authority.host with
      | .ipv6 _ => ((authority.host.text.drop 1).dropEnd 1).toString
      | _ => authority.host.text
    match ← addressOf host (r.address.number?.getD 80).toUInt16 with
    | none => return .error .unreachable
    | some address =>
      let socket ← TCP.Socket.Client.mk
      try socket.connect address catch _ => return .error .unreachable
      try
        socket.send r.message.toUTF8
        return .ok (← receive socket .empty).toList
      catch _ => return .error .broken
  | _, _ => return .error .unreachable

/-- What comes of a request, with so many redirects followed. -/
def exchangeOf (r : GatewayRequest) (redirects : Nat) : Async Exchange := do
  match ← bytesBack r with
  | .error x => return x
  | .ok bytes =>
    match Reply.redirect? r bytes, redirects with
    | none, _ => return .ofBytes bytes
    | some redirect, 0 => return .redirected redirect .unreachable
    | some redirect, redirects + 1 =>
      return .redirected redirect (← exchangeOf (r.follow redirect) redirects)

/-- What comes of the first of some requests within a number of seconds. -/
def exchangeWithin (seconds : UInt64) (requests : List GatewayRequest) : Async Exchange :=
  match requests with
  | [] => return .unreachable
  | r :: _ =>
    let late : Async Exchange := do
      Async.sleep (.ofInt (1000 * seconds.toNat))
      return .broken
    Async.race (exchangeOf r mostRedirects) late

/-! ### The disk -/

/-- The variables of the environment. -/
def environment : IO (List (String × String)) := do
  let block ← try IO.FS.readBinFile "/proc/self/environ" catch _ => pure .empty
  let entry (text : String) : Option (String × String) :=
    match text.splitOn "=" with
    | name :: value@(_ :: _) => some (name, "=".intercalate value)
    | _ => none
  return ((Text.decodeLossy block.toList).splitOn (String.singleton (Char.ofNat 0))).filterMap entry

/-- What a file holds, if it can be read. -/
def contents? (path : String) : IO (Option (List UInt8)) := do
  try return some (← IO.FS.readBinFile path).toList catch _ => return none

/-- What the files that may hold the machine id hold. -/
def machineIdFiles : IO (List (Option (List UInt8))) :=
  ["/etc/machine-id", "/var/lib/dbus/machine-id"].mapM contents?

/-- What the machine shows of itself. -/
def hostOf (environment : List (String × String)) : IO Host := do
  return ⟨← machineIdFiles, CommandLine.hostNameVariables.map fun name => environment.lookup name⟩

def isFolder (path : String) : IO Bool := do ((← IO.currentDir) / path).isDir

/-- The disk with what stands at a path, and with the folder that it would be in. -/
def look (path : String) (disk : Disk) : IO Disk := do
  let place := disk.follow path
  let named (place : List String) : String := "/" ++ "/".intercalate place
  let folder : List (List String × Disk.Entry) ←
    if ← isFolder (named place.dropLast) then pure [(place.dropLast, .folder)] else pure []
  let thing : List (List String × Disk.Entry) ←
    if ← isFolder (named place) then pure [(place, .folder)]
    else match ← contents? (named place) with
      | some contents => pure [(place, .ofContents contents)]
      | none => pure []
  return { disk with entries := disk.entries ++ thing ++ folder }

/-- Writes a database to its place. -/
def save (path : String) (disk : Disk) : IO Unit := do
  match Disk.isInMemory path, disk.at? (disk.follow path) with
  | false, some (.database content) => IO.FS.writeFile path content.toJson.render
  | _, _ => return ()

/-! ### Serving -/

/-- What the server keeps: its board, and when the list of models was had. -/
structure Kept where
  board : Board Database
  modelsSince : Int64

/-- A server for requests to the dashboard. -/
structure Service where
  settings : Settings
  environment : List (String × String)
  dashboard : Dashboard
  disk : Disk
  kept : IO.Ref Kept

namespace Service

/-- The board without a list of models that is too old. -/
def boardAt (s : Service) (now : Int64) (kept : Kept) : Board Database :=
  let age := now.toInt - kept.modelsSince.toInt
  if 1000 * (s.settings.gateway.modelsCacheSeconds.toNat : Int) ≤ age then
    { kept.board with models := none }
  else kept.board

/-- Answers a request if the given exchange comes of what is asked meanwhile. -/
def answerWith (s : Service) (request : Dashboard.Request) (host : Host) (now later : Int64)
    (x : Exchange) (kept : Kept) : Dashboard.Reply × Kept :=
  let board := s.boardAt now kept
  let world : Dashboard.World :=
    { now := Int64.ofInt (now.toInt / 1000), clock := now, later, collected := host.collect
      exchange := x, databaseAnswers := true }
  let (reply, after) := s.dashboard.respond world request board
  (reply, ⟨after, if board.models.isNone then later else kept.modelsSince⟩)

/-- Answers a request. -/
def answer (s : Service) (request : Dashboard.Request) : Async Response := do
  let now ← milliseconds
  let host ← hostOf s.environment
  let (rehearsed, _) := s.answerWith request host now now .broken (← s.kept.get)
  let x ← exchangeWithin s.settings.gateway.timeoutSeconds rehearsed.received
  let later ← milliseconds
  let (reply, store) ← s.kept.modifyGet fun kept =>
    let (reply, kept) := s.answerWith request host now later x kept
    ((reply, kept.board.store), kept)
  let path := s.settings.database.path
  save path (s.disk.withDatabase path store)
  return reply.response

end Service

instance : Http.Server.Handler Service where
  onRequest s r := do
    let body : ByteArray ← r.body.readAll
    let target := (toString r.line.uri).splitOn "?"
    let response ← s.answer
      { method := toString r.line.method
        path := target.headD ""
        query := (target.tail.head?).map bytesOf
        contentType := (r.line.headers.get? (.mk "content-type")).map (·.value)
        body := body.toList }
    let status := (Http.Status.ofCode none response.status.toUInt16).getD .ok
    let builder := response.headers.foldl (fun b (name, value) => b.header! name value)
      (Http.Response.new.status status)
    let text := match response.body with
      | .json j => j.render
      | .empty => ""
    return ← builder.fromBytes text.toUTF8

/-- Whether an address to listen at can be had. -/
def tryListening (s : ServerSettings) : Async (Except ListenFault Unit) := do
  match ← addressOf s.host s.portNumber with
  | none => return .error .unknownHost
  | some address =>
    try
      let socket ← TCP.Socket.Server.mk
      socket.bind address
      socket.listen 1
      return .ok ()
    catch
      | .resourceBusy .. => return .error .addressInUse
      | _ => return .error .addressNotAvailable

/-- Serves until a signal comes. -/
def serve (s : Service) : Async Unit := do
  match ← addressOf s.settings.server.host s.settings.server.portNumber with
  | none => return ()
  | some address =>
    let interrupted ← Signal.Waiter.mk .sigint false
    let terminated ← Signal.Waiter.mk .sigterm false
    let server ← Http.Server.serve address s
    Selectable.one #[.case interrupted.selector pure, .case terminated.selector pure]
    server.shutdownAndWait

/-! ### Runs -/

/-- The disk, as far as a run looks at it, and the settings that are found there. -/
def prepare (arguments : List String) (m : CommandLine.Machine) : IO (Disk × Option Settings) := do
  let here : Disk := { workingFolder := ({} : Disk).follow (← IO.currentDir).toString }
  match CommandLine.Order.ofArguments arguments with
  | .error _ => return (here, none)
  | .ok order =>
    let disk ← (Disk.settingsNames order.settingsName).foldlM (fun disk path => look path disk) here
    match CommandLine.settingsOf order.settingsName m disk with
    | .error _ => return (disk, none)
    | .ok settings => return (← look settings.database.path disk, some settings)

/-- Runs the program. -/
def run (arguments : List String) : Async UInt32 := do
  let now ← milliseconds
  let m : CommandLine.Machine :=
    { environment := ← environment, machineIdFiles := ← machineIdFiles, now, later := now
      exchange := .broken }
  let (disk, settings?) ← prepare arguments m
  let rehearsed := CommandLine.run arguments m disk
  let listens ← match rehearsed.ending with
    | .serving settings _ _ => tryListening settings.server
    | _ => pure (.ok ())
  let seconds := (settings?.map (·.gateway.timeoutSeconds)).getD 0
  let x ← exchangeWithin seconds rehearsed.received
  let m := { m with later := ← milliseconds, exchange := x, listening := fun _ => listens }
  let result := CommandLine.run arguments m disk
  if let some settings := settings? then save settings.database.path result.disk
  IO.print result.ending.output
  IO.eprint result.ending.complaint
  if let .serving settings dashboard board := result.ending then
    let kept ← IO.mkRef ⟨board, 0⟩
    serve { settings, environment := m.environment, dashboard, disk, kept }
  return result.ending.code.toUInt32

end HealthBoard.Program

def main (arguments : List String) : IO UInt32 := (HealthBoard.Program.run arguments).block
