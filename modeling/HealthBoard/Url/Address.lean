/-
Addresses on the web.

An address is read the way browsers read it: white space around it and line breaks in it do not
count, backslashes count as slashes where hosts do, and the path is brought into its shortest
form.  Only what a request needs is kept: where to connect, and what to ask for there.  A fragment
is never sent.
-/
import HealthBoard.Url.Form
import HealthBoard.Url.Host

namespace HealthBoard.Url

/-- Where to connect: the host, and the number behind the colon unless it is the usual one. -/
structure Authority where
  userInfo : List Char
  host : Host
  portNumber : Option Nat
  deriving DecidableEq

structure Address where
  scheme : List Char
  authority : Option Authority
  path : List Char
  query : Option (List Char)
  deriving DecidableEq

/-- The schemes whose addresses always have a host. -/
def isHostScheme (scheme : List Char) : Bool :=
  [ "http", "https", "ws", "wss", "ftp" ].contains (String.ofList scheme)

/-- The usual number of a scheme. -/
def usualPort? (scheme : List Char) : Option Nat :=
  match String.ofList scheme with
  | "http" | "ws" => some 80
  | "https" | "wss" => some 443
  | "ftp" => some 21
  | _ => none

/-- Control characters and spaces do not count at the ends. -/
def isOuterSpace (c : Char) : Bool := c.toNat ≤ 0x20

/-- The text without what does not count. -/
def significant (s : List Char) : List Char :=
  (((s.dropWhile isOuterSpace).reverse.dropWhile isOuterSpace).reverse).filter
    fun c => c != '\t' && c != '\n' && c != '\r'

/-- The scheme in lower case, and what follows its colon. -/
def splitScheme? (s : List Char) : Option (List Char × List Char) :=
  let isSchemeChar (c : Char) := c.isAlphanum || c == '+' || c == '-' || c == '.'
  match s.head? with
  | some c =>
    if c.isAlpha then
      match s.dropWhile isSchemeChar with
      | ':' :: rest => some ((s.takeWhile isSchemeChar).map Char.toLower, rest)
      | _ => none
    else none
  | none => none

/-- What ends the part that says where to connect. -/
def endsAuthority (hosts : Bool) (c : Char) : Bool :=
  c == '/' || c == '?' || c == '#' || (hosts && c == '\\')

/-- What stands before the last sign of its kind, if there is one, and what stands after it. -/
def splitLast (sign : Char) (s : List Char) : Option (List Char) × List Char :=
  if s.contains sign then
    let after := (s.reverse.takeWhile (· != sign)).reverse
    (some (s.take (s.length - after.length - 1)), after)
  else (none, s)

/-- The host and what follows its colon; a colon between brackets belongs to the host. -/
def splitHost : (inside : Bool) → List Char → List Char × Option (List Char)
  | _, [] => ([], none)
  | inside, c :: rest =>
    if c == ':' && !inside then ([], some rest)
    else
      let inside := if c == '[' then true else if c == ']' then false else inside
      let (host, tail) := splitHost inside rest
      (c :: host, tail)

/-- The number behind the colon; it may be left out. -/
def readPort (scheme : List Char) (ds : List Char) : Except Fault (Option Nat) :=
  if ds.isEmpty then .ok none
  else if !ds.all Char.isDigit then .error .badPort
  else
    let n := ds.foldl (fun n c => 10 * n + (c.toNat - '0'.toNat)) 0
    if 65535 < n then .error .badPort
    else .ok (if usualPort? scheme == some n then none else some n)

/-- Someone is named before the at sign; a lone colon names nobody. -/
def namesUser (userInfo : List Char) : Bool := !userInfo.isEmpty && userInfo != [':']

/-- Where to connect, from the text between the slashes and the path.  Where hosts are not looked
into, there may be none, but then nobody may be named and nothing may belong to it. -/
def readAuthority (scheme : List Char) (s : List Char) (followed : Bool) :
    Except Fault Authority := do
  let (userInfo, hostPort) := splitLast '@' s
  let (hostText, portText) := splitHost false hostPort
  if isHostScheme scheme then
    if hostText.isEmpty then throw .emptyHost
    let host ← Host.ofText hostText
    return ⟨userInfo.getD [], host, ← readPort scheme (portText.getD [])⟩
  else
    if hostPort.isEmpty && userInfo == some [] && followed then throw .emptyHost
    let host ← Host.ofOpaque hostText
    if hostText.isEmpty && (portText.isSome || namesUser (userInfo.getD [])) then throw .emptyHost
    return ⟨userInfo.getD [], host, ← readPort scheme (portText.getD [])⟩

/-! ### Paths and queries -/

/-- The bytes that stand for themselves in a path. -/
def isPathByte (b : UInt8) : Bool :=
  0x20 < b && b < 0x7F &&
    !([0x22, 0x23, 0x3C, 0x3E, 0x3F, 0x60, 0x7B, 0x7D] : List UInt8).contains b

/-- The bytes that stand for themselves in a query. -/
def isQueryByte (hosts : Bool) (b : UInt8) : Bool :=
  0x20 < b && b < 0x7F && !([0x22, 0x23, 0x3C, 0x3E] : List UInt8).contains b &&
    !(hosts && b == 0x27)

/-- A segment that stands for the place itself. -/
def isHere (segment : List Char) : Bool :=
  let s := String.ofList (segment.map Char.toLower)
  s == "." || s == "%2e"

/-- A segment that stands for the place above. -/
def isAbove (segment : List Char) : Bool :=
  let s := String.ofList (segment.map Char.toLower)
  s == ".." || s == ".%2e" || s == "%2e." || s == "%2e%2e"

/-- Walks along the segments; those walked so far come last first. -/
def walk : (walked : List (List Char)) → List (List Char) → List (List Char)
  | walked, [] => walked
  | walked, [segment] =>
    if isAbove segment then [] :: walked.tail
    else if isHere segment then [] :: walked
    else segment :: walked
  | walked, segment :: rest =>
    if isAbove segment then walk walked.tail rest
    else if isHere segment then walk walked rest
    else walk (segment :: walked) rest

/-- The path in its shortest form, from what follows the place to connect to. -/
def readPath (hosts : Bool) (s : List Char) : List Char :=
  let separates (c : Char) : Bool := c == '/' || (hosts && c == '\\')
  let segments := match s with
    | c :: rest => splitChars separates (if separates c then rest else c :: rest)
    | [] => [[]]
  (walk [] segments).reverse.flatMap fun segment => '/' :: percentEncode isPathByte segment

/-- The text before a query and a fragment, and the query. -/
def splitQuery (s : List Char) : List Char × Option (List Char) :=
  let s := s.takeWhile (· != '#')
  match s.dropWhile (· != '?') with
  | _ :: query => (s.takeWhile (· != '?'), some query)
  | [] => (s, none)

/-- The address of a scheme with hosts, or of another one with two slashes. -/
def readHosted (scheme rest : List Char) : Except Fault Address := do
  let hosts := isHostScheme scheme
  let place := rest.takeWhile fun c => !endsAuthority hosts c
  let behind := rest.dropWhile fun c => !endsAuthority hosts c
  let authority ← readAuthority scheme place (!behind.isEmpty)
  let (path, query) := splitQuery behind
  let path := if path.isEmpty && !hosts then [] else readPath hosts path
  return ⟨scheme, some authority, path, query.map (percentEncode (isQueryByte hosts))⟩

/-- The address of a file; what stands between two slashes and the path is a host all the same. -/
def readFile (scheme rest : List Char) : Except Fault Address := do
  let isSlash (c : Char) : Bool := c == '/' || c == '\\'
  match rest with
  | a :: b :: rest' =>
    if isSlash a && isSlash b then
      let hostText := rest'.takeWhile fun c => !endsAuthority true c
      let isDrive := match hostText with
        | [d, colon] => d.isAlpha && (colon == ':' || colon == '|')
        | _ => false
      let (path, query) := splitQuery (rest'.dropWhile fun c => !endsAuthority true c)
      let host ← if hostText.isEmpty || isDrive then pure (.name []) else Host.ofText hostText
      return ⟨scheme, some ⟨[], host, none⟩, readPath true path,
        query.map (percentEncode (isQueryByte true))⟩
    else
      let (path, query) := splitQuery rest
      return ⟨scheme, none, readPath true path, query.map (percentEncode (isQueryByte true))⟩
  | _ =>
    let (path, query) := splitQuery rest
    return ⟨scheme, none, readPath true path, query.map (percentEncode (isQueryByte true))⟩

/-- Reads an address. -/
def Address.parse (text : String) : Except Fault Address :=
  match splitScheme? (significant text.toList) with
  | none => .error .noScheme
  | some (scheme, rest) =>
    if scheme == "file".toList then readFile scheme rest
    else if isHostScheme scheme then
      readHosted scheme (rest.dropWhile fun c => c == '/' || c == '\\')
    else match rest with
      | '/' :: '/' :: rest => readHosted scheme rest
      | rest =>
        let (path, query) := splitQuery rest
        .ok ⟨scheme, none, path, query.map (percentEncode (isQueryByte false))⟩

/-- The address with more parameters behind those it has. -/
def Address.withParameters (a : Address) (pairs : List (String × String)) : Address :=
  let more := Form.encode pairs
  let query := match a.query with
    | some q => if q.isEmpty || pairs.isEmpty then q ++ more else q ++ '&' :: more
    | none => more
  { a with query := some query }

/-- The number to connect to. -/
def Address.number? (a : Address) : Option Nat :=
  a.authority.bind (·.portNumber) <|> usualPort? a.scheme

/-- Both addresses are at one host, and there behind one number. -/
def Address.sharesHost (a b : Address) : Bool :=
  a.authority.map (·.host) == b.authority.map (·.host) && a.number? == b.number?

/-- What is asked for at the place connected to. -/
def Address.target (a : Address) : List Char :=
  a.path ++ match a.query with
    | some q => '?' :: q
    | none => []

end HealthBoard.Url
