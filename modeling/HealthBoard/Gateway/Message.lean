/-
Requests and replies as they travel.

A request is a few lines and perhaps a body, and the connection is closed after the reply, so that
a reply is whatever came until then.  It says itself how long its body is, or comes in chunks that
do, or ends with the connection.  A reply that is shorter than it says did not come completely.
A reply with another address is followed there whether it came completely or not.
-/
import HealthBoard.Gateway.Exchange
import HealthBoard.Text.Blank
import HealthBoard.Text.Utf8

namespace HealthBoard

namespace Url

/-- A host as it is written in an address. -/
def Host.text : Host → String
  | .name chars => String.ofList chars
  | .ipv4 n =>
    ".".intercalate ([24, 16, 8, 0].map fun shift => Decimal.text ((n >>> shift) % 256))
  | .ipv6 pieces =>
    "[" ++ ":".intercalate (pieces.map fun p => String.ofList (Nat.toDigits 16 p)) ++ "]"

/-- Where to connect, as it is written in an address. -/
def Authority.text (a : Authority) : String :=
  a.host.text ++ match a.portNumber with
    | some n => ":" ++ Decimal.text n
    | none => ""

/-- The path without its last segment. -/
def Address.folder (a : Address) : String :=
  String.ofList (a.path.reverse.dropWhile (· != '/')).reverse

/-- The address that a text stands for at this address: the text may leave out what is the same. -/
def Address.resolve? (a : Address) (text : String) : Option Address :=
  let scheme := String.ofList a.scheme ++ ":"
  let place := scheme ++ "//" ++ (a.authority.map Authority.text).getD ""
  let parse (text : String) : Option Address := (Address.parse text).toOption
  let isSlash (c : Char) : Bool := c == '/' || c == '\\'
  match splitScheme? (significant text.toList), significant text.toList with
  | some _, _ => parse text
  | none, [] => some a
  | none, '#' :: _ => some a
  | none, '?' :: query => parse (place ++ String.ofList a.path ++ String.ofList ('?' :: query))
  | none, first :: rest =>
    if isSlash first && rest.head?.any isSlash then parse (scheme ++ text)
    else if isSlash first then parse (place ++ String.ofList (first :: rest))
    else parse (place ++ a.folder ++ String.ofList (first :: rest))

end Url

/-! ### Requests -/

namespace GatewayRequest

/-- The lines in front of the body. -/
def headers (r : GatewayRequest) : List (String × String) :=
  let given (name : String) : Option String → List (String × String)
    | some value => [(name, value)]
    | none => []
  given "host" (r.address.authority.map Url.Authority.text) ++ [("accept", "*/*")] ++
    given "authorization" r.authorization ++ given "new-api-user" r.userId ++
    given "content-type" (r.body.map fun _ => "application/json") ++
    given "content-length" (r.body.map fun body => Decimal.text body.utf8ByteSize) ++
    [("connection", "close")]

/-- The request as it is sent. -/
def message (r : GatewayRequest) : String :=
  let first := r.method.name ++ " " ++ String.ofList r.address.target ++ " HTTP/1.1"
  let lines := first :: r.headers.map fun (name, value) => name ++ ": " ++ value
  String.join (lines.map (· ++ "\r\n")) ++ "\r\n" ++ r.body.getD ""

end GatewayRequest

/-! ### Replies -/

/-- How a reply with a status sends on. -/
def RedirectStatus.ofCode? (code : Nat) : Option RedirectStatus :=
  [movedPermanently, found, seeOther, temporaryRedirect, permanentRedirect].find?
    fun status => status.code == code

namespace Reply

/-- What stands before the end of a line, and what follows; the line has to end. -/
def takeLine? : List UInt8 → Option (List UInt8 × List UInt8)
  | 0x0D :: 0x0A :: rest => some ([], rest)
  | b :: rest => (takeLine? rest).map fun (line, rest) => (b :: line, rest)
  | [] => none

/-- The lines before an empty one, and what follows that. -/
def takeHead? : (fuel : Nat) → List UInt8 → Option (List String × List UInt8)
  | 0, _ => none
  | fuel + 1, bytes => do
    let (line, rest) ← takeLine? bytes
    if line.isEmpty then return ([], rest)
    let (lines, rest) ← takeHead? fuel rest
    return (Text.decodeLossy line :: lines, rest)

/-- The value of a header, whose name may be in any case. -/
def header? (lines : List String) (name : String) : Option String :=
  lines.findSome? fun line =>
    match line.splitOn ":" with
    | first :: rest =>
      if (Text.trim first).toLower == name then some (Text.trim (":".intercalate rest)) else none
    | [] => none

/-- The number of a status line. -/
def status? (line : String) : Option Nat :=
  match line.splitOn " " with
  | _ :: code :: _ => code.toNat?
  | _ => none

/-- A number in hexadecimal, up to what may follow it. -/
def chunkSize? (line : List UInt8) : Option Nat :=
  match line.takeWhile fun b => (Json.Reader.hexValue? b).isSome with
  | [] => none
  | digits => some (digits.foldl (fun n b => 16 * n + (Json.Reader.hexValue? b).getD 0) 0)

/-- What the chunks hold, up to the one of size zero. -/
def dechunk? : (fuel : Nat) → List UInt8 → Option (List UInt8)
  | 0, _ => none
  | fuel + 1, bytes => do
    let (line, rest) ← takeLine? bytes
    let size ← chunkSize? line
    if size == 0 then return []
    guard (size ≤ rest.length)
    let (_, next) ← takeLine? (rest.drop size)
    return rest.take size ++ (← dechunk? fuel next)

/-- The body of a reply, from the lines in front of it and all that follows them. -/
def body? (status : Nat) (headers : List String) (rest : List UInt8) : Option (List UInt8) :=
  if !carriesBody status then some []
  else match header? headers "transfer-encoding", header? headers "content-length" with
    | some _, _ => dechunk? (rest.length + 1) rest
    | none, some length => do
      let n ← length.toNat?
      guard (n ≤ rest.length)
      return rest.take n
    | none, none => some rest

/-- The status, the further lines and the rest of the reply that counts.  Replies that only announce
it may come first. -/
def head? : (fuel : Nat) → List UInt8 → Option (Nat × List String × List UInt8)
  | 0, _ => none
  | fuel + 1, bytes => do
    let (lines, rest) ← takeHead? (bytes.length + 1) bytes
    let status ← lines.head?.bind status?
    if 100 ≤ status && status < 200 && status != 101 then head? fuel rest
    else return (status, lines.tail, rest)

/-- The redirect that a reply to a request sends on by.  An address that cannot be read is none. -/
def redirect? (request : GatewayRequest) (bytes : List UInt8) : Option Redirect := do
  let (status, headers, _) ← head? (bytes.length + 1) bytes
  return ⟨← RedirectStatus.ofCode? status,
    ← request.address.resolve? (← header? headers "location")⟩

/-- A complete reply. -/
def read? (bytes : List UInt8) : Option Exchange := do
  let (status, headers, rest) ← head? (bytes.length + 1) bytes
  return .reply status (← body? status headers rest)

end Reply

/-- What came of a request that is not sent on, if these are all bytes that came back. -/
def Exchange.ofBytes (bytes : List UInt8) : Exchange := (Reply.read? bytes).getD .broken

end HealthBoard
