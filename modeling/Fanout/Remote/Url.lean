import Fanout.Remote.Host

/-!
# Addresses

* `Url`, `Url.ofText` : an address, and how it is read;
* `Url.extend` : an address with more segments in its path;
* `Url.addQuery` : an address with one more pair in its query;
* `Url.target` : the path and the query as they are sent.

The path of an address is a list of segments, which stand in it as they are sent. Its segments `.`
and `..` are resolved when it is read, and are left out when it is extended.
-/

namespace Fanout

inductive Route
  | segments (parts : List String)
  /-- A path that is no list of segments, and that nothing can be added to. -/
  | plain (text : String)
  deriving Repr, DecidableEq

structure Url where
  scheme : String
  host : Option HostName := none
  port : Option Nat := none
  route : Route
  query : Option String := none
  fragment : Option String := none
  deriving Repr, DecidableEq

namespace Url

def isWeb (u : Url) : Bool := u.scheme == "http" || u.scheme == "https"

def knownPorts : List (String × Option Nat) :=
  [("http", some 80), ("https", some 443), ("ws", some 80), ("wss", some 443), ("ftp", some 21)]

def portInUse (u : Url) : Option Nat := u.port.or ((knownPorts.lookup u.scheme).join)

/-! ## Reading -/

def isSlash (known : Bool) (c : Char) : Bool := c == '/' || (known && c == '\\')

/-- Whether a character ends the part of an address that names the host. -/
def endsAuthority (known : Bool) (c : Char) : Bool := isSlash known c || c == '?' || c == '#'

def isLineOrTab (c : Char) : Bool := c == '\t' || c == '\n' || c == '\r'

/-- An address without controls and spaces at its ends, and without tabs and line ends in it. -/
def cleaned (text : String) : List Char :=
  let low (c : Char) : Bool := c ≤ ' '
  ((text.toList.dropWhile low).reverse.dropWhile low).reverse.filter fun c => !isLineOrTab c

def isSchemeChar (c : Char) : Bool := Percent.isLetterOrDigit c || ['+', '-', '.'].contains c

def isLetter (c : Char) : Bool := ('A' ≤ c && c ≤ 'Z') || ('a' ≤ c && c ≤ 'z')

/-- The scheme in lower case, and what follows its colon. -/
def scheme? (cs : List Char) : Option (String × List Char) :=
  match cs.dropWhile isSchemeChar with
  | ':' :: rest =>
    if cs.head?.any isLetter then
      some (String.ofList (Text.lowerAscii (cs.takeWhile isSchemeChar)), rest)
    else none
  | _ => none

/-- The number behind the colon of a host. -/
def portOf (cs : List Char) : Except AddressFault (Option Nat) :=
  if cs.isEmpty then .ok none
  else match HostName.digitsValue? 10 cs with
    | some n => if n < 65536 then .ok (some n) else .error .badPort
    | none => .error .badPort

/-- The text of a host, and what follows the colon behind it. A colon in brackets belongs to the
host. -/
def splitPort (inBrackets : Bool) : List Char → List Char × List Char
  | [] => ([], [])
  | c :: cs =>
    if c == ':' && !inBrackets then ([], cs)
    else
      let (host, port) := splitPort (if c == '[' then true else if c == ']' then false else inBrackets) cs
      (c :: host, port)

/-- What follows the last `@` of a text. -/
def behindUser (cs : List Char) : List Char := (cs.reverse.takeWhile (· != '@')).reverse

def hostOf (known : Bool) (cs : List Char) : Except AddressFault (HostName × Option Nat) := do
  let (host, port) := splitPort false (behindUser cs)
  if known && host.isEmpty then .error .emptyHost
  else do
    let host ← if known then HostName.ofText host else HostName.ofOtherText host
    .ok (host, ← portOf port)

/-- The written forms of a segment that stays in its place. -/
def isDot (cs : List Char) : Bool := [['.'], ['%', '2', 'e']].contains (Text.lowerAscii cs)

/-- The written forms of a segment that leads one step back. -/
def isDoubleDot (cs : List Char) : Bool :=
  let dots := [['.'], ['%', '2', 'e']]
  (dots.flatMap fun a => dots.map (a ++ ·)).contains (Text.lowerAscii cs)

/-- Puts segments behind those in `done`, which stand in reverse order. -/
def resolve (done : List (List Char)) : List (List Char) → List (List Char)
  | [] => done.reverse
  | s :: rest =>
    let done :=
      if isDoubleDot s then (if rest.isEmpty then [] :: done.drop 1 else done.drop 1)
      else if isDot s then (if rest.isEmpty then [] :: done else done)
      else s :: done
    resolve done rest

/-- The segments of a path behind its first slash. -/
def segmentsOf (known : Bool) (cs : List Char) : List String :=
  (resolve [] ((Text.splitAt (isSlash known) cs).map (Percent.encode Percent.keptInPath))).map
    String.ofList

/-- The parts before a question mark, behind it, and behind a hash. -/
def splitTail (cs : List Char) : List Char × Option (List Char) × Option (List Char) :=
  let behind (text : List Char) : Option (List Char) :=
    match text with
    | [] => none
    | _ :: rest => some rest
  let whole := cs.takeWhile (· != '#')
  (whole.takeWhile (· != '?'), behind (whole.dropWhile (· != '?')), behind (cs.dropWhile (· != '#')))

def withTail (scheme : String) (host : Option HostName) (port : Option Nat)
    (route : List Char → Route) (cs : List Char) : Url :=
  let (path, query, fragment) := splitTail cs
  { scheme, host, port, route := route path
    query := query.map fun q => String.ofList (Percent.encode Percent.keptInQuery q)
    fragment := fragment.map fun f => String.ofList (Percent.encode Percent.keptInFragment f) }

/-- A path that may start with a slash, as segments. -/
def pathRoute (known : Bool) (cs : List Char) : Route :=
  match cs with
  | c :: rest => .segments (segmentsOf known (if isSlash known c then rest else c :: rest))
  | [] => .segments [""]

/-- Reads an address from its host on. -/
def fromAuthority (known : Bool) (scheme : String) (cs : List Char) : Except AddressFault Url := do
  let (host, port) ← hostOf known (cs.takeWhile fun c => !endsAuthority known c)
  .ok (withTail scheme (some host) port (pathRoute known) (cs.dropWhile fun c => !endsAuthority known c))

def plainRoute (cs : List Char) : Route :=
  .plain (String.ofList (Percent.encode (fun c => ' ' ≤ c && c < '\x7f') cs))

/-- Reads the address of a local file, in which the host may be left out. -/
def fromFile (cs : List Char) : Except AddressFault Url :=
  match cs with
  | a :: b :: rest =>
    if isSlash true a && isSlash true b && !(rest.takeWhile fun c => !endsAuthority true c).isEmpty
    then fromAuthority true "file" rest
    else .ok (withTail "file" none none (pathRoute true) (cs.dropWhile (isSlash true)))
  | _ => .ok (withTail "file" none none (pathRoute true) (cs.dropWhile (isSlash true)))

def ofText (text : String) : Except AddressFault Url :=
  match scheme? (cleaned text) with
  | none => .error .noScheme
  | some (scheme, rest) =>
    if scheme == "file" then fromFile rest
    else if (knownPorts.lookup scheme).isSome then
      fromAuthority true scheme (rest.dropWhile (isSlash true))
    else match rest with
      | '/' :: '/' :: rest => fromAuthority false scheme rest
      | '/' :: _ => .ok (withTail scheme none none (pathRoute false) rest)
      | _ => .ok (withTail scheme none none plainRoute rest)

/-! ## Writing -/

def queryText (u : Url) : String := u.query.elim "" ("?" ++ ·)

def target (u : Url) : String :=
  match u.route with
  | .segments parts => "/" ++ "/".intercalate parts ++ u.queryText
  | .plain text => text ++ u.queryText

/-- An address without a host as text. -/
def text (u : Url) : String :=
  u.scheme ++ ":" ++ u.target ++ u.fragment.elim "" ("#" ++ ·)

/-! ## Longer addresses -/

/-- Segments without an empty last one. -/
def openEnd (parts : List String) : List String :=
  if parts.getLast? == some "" then parts.dropLast else parts

/-- The segments to which more are added: an empty path has none. -/
def stem (parts : List String) : List String :=
  match openEnd parts with
  | [""] => []
  | ps => ps

def segment (s : String) : String :=
  String.ofList (Percent.encode Percent.keptInSegment (s.toList.filter fun c => !isLineOrTab c))

/-- The path with more segments, where the path can be added to. -/
def extend? (u : Url) (more : List String) : Option Url :=
  match u.route with
  | .segments parts =>
    let added := (more.filter fun s => s != "." && s != "..").map segment
    some { u with route := .segments (stem parts ++ added) }
  | .plain _ => none

def formText (s : String) : String := String.ofList (Percent.formEncode s.toList)

def addQuery (u : Url) (key value : String) : Url :=
  let pair := formText key ++ "=" ++ formText value
  { u with query := some (match u.query with
      | none | some "" => pair
      | some q => q ++ "&" ++ pair) }

end Url
end Fanout
