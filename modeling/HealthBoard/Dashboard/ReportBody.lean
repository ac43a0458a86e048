/-
The body of a request to report this machine.

A request without a content type has no body, whatever bytes it carries.  A content type that does
not say JSON is refused, and so is a body of JSON that is too long, before it is read, and one that
is no JSON of the right form; the complaint then tells the way to the part that is wrong.
-/
import HealthBoard.Json.Wire

namespace HealthBoard.Dashboard

/-! ### Content types -/

/-- A character of a word in a content type. -/
def isTokenChar (c : Char) : Bool :=
  0x20 < c.toNat && c.toNat < 0x7F && !"()<>@,;:\\\"/[]?=\x7b\x7d".toList.contains c

/-- A character that a header may have to be read as text. -/
def isHeaderText (c : Char) : Bool := c == '\t' || (0x20 ≤ c.toNat && c.toNat < 0x7F)

/-- What follows a quoted value, after its opening quote. -/
def afterQuoted? : List Char → Option (List Char)
  | [] => none
  | '"' :: rest => some rest
  | ['\\'] => none
  | '\\' :: _ :: rest => afterQuoted? rest
  | c :: rest => if 0x20 ≤ c.toNat && c.toNat != 0x7F then afterQuoted? rest else none

/-- Whether what follows a semicolon is parameters, none of them included. -/
def areParameters : (fuel : Nat) → List Char → Bool
  | 0, _ => false
  | fuel + 1, cs =>
    let cs := cs.dropWhile (· == ' ')
    let name := cs.takeWhile isTokenChar
    if cs.isEmpty then true
    else match name.isEmpty, cs.dropWhile isTokenChar with
      | false, '=' :: '"' :: rest =>
        match (afterQuoted? rest).map fun rest => rest.dropWhile (· == ' ') with
        | some [] => true
        | some (';' :: rest) => areParameters fuel rest
        | _ => false
      | false, '=' :: rest =>
        match rest.takeWhile isTokenChar, rest.dropWhile isTokenChar with
        | _, [] => true
        | _ :: _, ';' :: rest => areParameters fuel rest
        | _, _ => false
      | _, _ => false

/-- The two halves of a subtype, of which the second comes after the last plus sign. -/
def splitSuffix (subtype : List Char) : List Char × Option (List Char) :=
  let suffix := (subtype.reverse.takeWhile (· != '+')).reverse
  let base := subtype.take (subtype.length - suffix.length)
  if base.length ≤ 1 then (subtype, none) else (base.dropLast, some suffix)

/-- Whether a content type says JSON. -/
def saysJson (contentType : String) : Bool :=
  let cs := contentType.toList
  let lowered (s : List Char) := String.ofList (s.map Char.toLower)
  let kind := cs.takeWhile isTokenChar
  match cs.dropWhile isTokenChar with
  | '/' :: rest =>
    let subtype := rest.takeWhile isTokenChar
    let (base, suffix) := splitSuffix subtype
    let wellFormed := match subtype.isEmpty, rest.dropWhile isTokenChar with
      | false, [] => true
      | false, ';' :: rest => areParameters (rest.length + 1) rest
      | _, _ => false
    cs.all isHeaderText && wellFormed && lowered kind == "application" &&
      (lowered base == "json" || suffix.map lowered == some "json")
  | _ => false

/-! ### Bodies -/

/-- What may be said about a report. -/
structure ReportOrder where
  /-- Report also if the last report is recent. -/
  force : Bool := false

def ReportOrder.shape : Json.Shape := .record "ReportRequest" <| .field "force" false .boolean .done

instance : Wire ReportOrder where
  shape := ReportOrder.shape
  take := fun (force, ()) => ⟨force⟩
  give o := (o.force, ())
  take_give _ := rfl

/-- How many bytes of JSON a request may carry. -/
def greatestBody : Nat := 2097152

/-- Why a body is refused. -/
inductive BodyFault where
  | notJson
  | tooLong
  | malformed (body : List UInt8) (complaint : Json.Complaint)

def BodyFault.message : BodyFault → String
  | .notJson => "Expected request with `Content-Type: application/json`"
  | .tooLong => "Failed to buffer the request body: length limit exceeded"
  | .malformed body c =>
    (match c.cause.category with
      | .form => "Failed to deserialize the JSON body into the target type: "
      | .grammar | .ended => "Failed to parse the request body as JSON: ") ++
    (if c.path.isEmpty then "" else Json.pathText c.path ++ ": ") ++ c.message body

/-- What a request says about its report; one without a body says nothing. -/
def readReportOrder (contentType : Option String) (body : List UInt8) :
    Except BodyFault ReportOrder :=
  match contentType with
  | none => .ok {}
  | some contentType =>
    if saysJson contentType then
      if greatestBody < body.length then .error .tooLong
      else match (Wire.decode body : Except Json.Complaint ReportOrder) with
      | .ok order => .ok order
      | .error complaint => .error (.malformed body complaint)
    else .error .notJson

end HealthBoard.Dashboard
