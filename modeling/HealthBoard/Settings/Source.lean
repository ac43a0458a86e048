/-
Where settings come from: a file in some format, and variables of the environment.

A file that does not exist says nothing.  A variable counts if its name begins in the right way;
two underscores in the rest of the name lead into a table.  Its value is taken for a truth value
or a number where it reads like one.
-/
import HealthBoard.Json.Reader
import HealthBoard.Settings.Section
import HealthBoard.Text.Utf8
import HealthBoard.Toml.Reader

namespace HealthBoard

namespace Setting

mutual

/-- A setting from a JSON value. -/
def ofJson (origin : String) : Json → Setting
  | .null => .scalar origin .nothing
  | .bool b => .scalar origin (.boolean b)
  | .int n =>
    if leastInteger ≤ n ∧ n ≤ greatestInteger then .scalar origin (.integer (Int64.ofInt n))
    else .scalar origin (.number n.toNat.toUInt64.toFloat)
  | .float x => .scalar origin (.number x)
  | .str s => .scalar origin (.text s)
  | .arr items => .list origin (ofJsonItems origin items)
  | .obj members => .table origin (ofJsonMembers origin members)

def ofJsonItems (origin : String) : List Json → List Setting
  | [] => []
  | j :: rest => ofJson origin j :: ofJsonItems origin rest

def ofJsonMembers (origin : String) : List (String × Json) → List (String × Setting)
  | [] => []
  | (name, j) :: rest => (name, ofJson origin j) :: ofJsonMembers origin rest

end

mutual

/-- A setting from a TOML value. -/
def ofToml (origin : String) : Toml.Node → Setting
  | .text s => .scalar origin (.text s)
  | .integer n => .scalar origin (.integer n)
  | .number x => .scalar origin (.number x)
  | .boolean b => .scalar origin (.boolean b)
  | .moment s => .scalar origin (.text s)
  | .array items => .list origin (ofTomlItems origin items)
  | .closed members => .table origin (ofTomlMembers origin members)
  | .table _ members => .table origin (ofTomlMembers origin members)
  | .tables rows => .list origin (ofTomlRows origin rows)

def ofTomlItems (origin : String) : List Toml.Node → List Setting
  | [] => []
  | n :: rest => ofToml origin n :: ofTomlItems origin rest

def ofTomlMembers (origin : String) : List (String × Toml.Node) → List (String × Setting)
  | [] => []
  | (name, n) :: rest => (name, ofToml origin n) :: ofTomlMembers origin rest

def ofTomlRows (origin : String) : List (List (String × Toml.Node)) → List Setting
  | [] => []
  | row :: rest => .table origin (ofTomlMembers origin row) :: ofTomlRows origin rest

end

end Setting

/-- How the settings in a text are read, given what complaints call their file. -/
def SettingsReader := (origin : String) → String → Except String (List (String × Setting))

/-- A format of settings.  Only JSON and TOML are read here, and any other by a reader of its own.
-/
inductive FileFormat where
  | json
  | toml
  | other (read : SettingsReader)

/-- A file with settings. -/
structure SettingsFile where
  /-- What complaints call it. -/
  name : String
  format : FileFormat
  contents : List UInt8

namespace SettingsFile

/-- The contents as text, without the mark that may stand at the beginning. -/
def text (f : SettingsFile) : String :=
  Text.decodeLossy <| match f.contents with
    | 0xEF :: 0xBB :: 0xBF :: rest => rest
    | contents => contents

/-- The settings of a file. -/
def settings (f : SettingsFile) : Except SettingsFault (List (String × Setting)) :=
  match f.format with
  | .json =>
    let bytes := f.text.toUTF8.toList
    match Json.parse bytes with
    | .error complaint => .error (.unreadable (complaint.message bytes) f.name)
    | .ok j =>
      match Setting.ofJson f.name j with
      | .table _ members => .ok members
      | s =>
        let fault : SettingsFault := .wrongType s.found "a map" [] f.name
        .error (.unreadable fault.message f.name)
  | .toml =>
    let chars := f.text.toList
    match Toml.parse chars with
    | .error fault => .error (.unreadable (fault.message chars) f.name)
    | .ok members => .ok (Setting.ofTomlMembers f.name members)
  | .other read => (read f.name f.text).mapError fun complaint => .unreadable complaint f.name

end SettingsFile

namespace Environment

/-- What complaints call the environment. -/
def name : String := "the environment"

/-- How the names of the variables begin that count, in lower case. -/
def start : String := "modelpulse__"

/-- The key that the rest of a name stands for. -/
def keyOf : List Char → List Char
  | '_' :: '_' :: rest => '.' :: keyOf rest
  | c :: rest => c :: keyOf rest
  | [] => []

/-- The value of a variable, taken for what it reads like. -/
def scalarOf (value : String) : Scalar :=
  match Text.lowercase value, Decimal.readInteger value, Decimal.readFloat? value with
  | "true", _, _ => .boolean true
  | "false", _, _ => .boolean false
  | _, .ok n, _ => .integer n
  | _, _, some x => .number x
  | _, _, none => .text value

/-- The setting that a variable stands for, if it is one. -/
def setting? (key value : String) : Option (String × Setting) :=
  let lowered := (Text.lowercase key).toList
  if start.toList.isPrefixOf lowered then
    some (String.ofList (keyOf (lowered.drop start.length)), .scalar name (scalarOf value))
  else none

/-- The settings of the environment. -/
def settings (environment : List (String × String)) : List (String × Setting) :=
  environment.filterMap fun (key, value) => setting? key value

end Environment
end HealthBoard
