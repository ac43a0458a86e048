/-
What identifies this machine.

The visitor id is a hash over the machine id, which the system keeps in a file, and the host's
name, which it keeps in a variable.  Either may be missing; a machine that has neither cannot be
told from others, and then there is no id.  White space around either is none of its own, and host
names do not know case.
-/
import HealthBoard.Hash.Xxh3
import HealthBoard.Text.Blank
import HealthBoard.Text.Lowercase

namespace HealthBoard

/-- Why no visitor id was found. -/
inductive CollectionFault where
  | unavailable (reason : String)
  | failed (reason : String)
  deriving DecidableEq

def CollectionFault.message : CollectionFault → String
  | .unavailable reason => "fingerprint collection unavailable: " ++ reason
  | .failed reason => "fingerprint collection failed: " ++ reason

/-- What a machine shows of itself. -/
structure Host where
  /-- The contents of the files that may hold the machine id, in order; `none` if unreadable. -/
  files : List (Option (List UInt8))
  /-- The variables that may hold the host's name, in order; `none` if not set. -/
  names : List (Option String)

namespace Host

/-- What a file says, if it can be read as text and says something. -/
def usableFile? (contents : Option (List UInt8)) : Option String := do
  let text ← String.fromUTF8? ⟨(← contents).toArray⟩
  let id := Text.trim text
  if id == "" then none else some id

/-- What a variable says, if it is set and says something. -/
def usableVariable? (value : Option String) : Option String := do
  let name := Text.lowercase (Text.trim (← value))
  if name == "" then none else some name

/-- The machine id: what the first usable file says. -/
def machineId? (h : Host) : Option String := h.files.findSome? usableFile?

/-- The host's name: what the first usable variable says. -/
def hostName? (h : Host) : Option String := h.names.findSome? usableVariable?

/-- The text that is hashed. -/
def identity (machineId hostName : String) : String :=
  machineId ++ ":" ++ hostName ++ ":linux:x86_64"

/-- The id of a machine with this machine id and host name. -/
def visitorId (machineId hostName : String) : String :=
  (Xxh3.hash (identity machineId hostName).toUTF8).text

/-- The visitor id of the machine. -/
def collect (h : Host) : Except CollectionFault String :=
  match h.machineId?, h.hostName? with
  | none, none => .error (.unavailable "no machine id or hostname available")
  | machineId, hostName => .ok (visitorId (machineId.getD "") (hostName.getD ""))

end Host
end HealthBoard
