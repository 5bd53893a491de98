import CourierTrack.Url.Basic
/-!
Reading addresses, on their own or relative to another one.
-/

namespace CourierTrack.Url

/-- Controls and spaces at either end count for nothing, nor do tabs and line ends anywhere. -/
def clean (text : List Char) : List Char :=
  let outer (c : Char) : Bool := c.toNat ≤ 0x20
  let inner := ((text.dropWhile outer).reverse.dropWhile outer).reverse
  inner.filter fun c => !(c = '\t' || c = '\n' || c = '\r')

def isAlpha (c : Char) : Bool := ('a' ≤ c && c ≤ 'z') || ('A' ≤ c && c ≤ 'Z')

def isSchemeChar (c : Char) : Bool := isAlpha c || Host.isDigit c || "+-.".contains c

/-- The scheme before a colon, in small letters, and what follows the colon. -/
def scheme? : List Char → Option (String × List Char)
  | [] => none
  | c :: rest =>
    if isAlpha c then
      match rest.dropWhile isSchemeChar with
      | ':' :: after =>
        some (String.ofList ((c :: rest.takeWhile isSchemeChar).map Char.toLower), after)
      | _ => none
    else none

/-- Whether a character separates the pieces of a path. -/
def isSlash (kind : Kind) (c : Char) : Bool := c = '/' || (kind ≠ .other && c = '\\')

def endsPath (c : Char) : Bool := c = '?' || c = '#'

/-- Query and fragment. -/
def tail (kind : Kind) : List Char → Option (List Char) × Option (List Char)
  | '?' :: rest =>
    let set := if kind = .other then Percent.query else Percent.specialQuery
    let query := Percent.encode set (rest.takeWhile (· ≠ '#'))
    match rest.dropWhile (· ≠ '#') with
    | _ :: fragment => (some query, some (Percent.encode Percent.fragment fragment))
    | [] => (some query, none)
  | '#' :: rest => (none, some (Percent.encode Percent.fragment rest))
  | _ => (none, none)

/-- Cuts a text at slashes; there is always at least one piece. -/
def pieces (kind : Kind) : List Char → List (List Char)
  | [] => [[]]
  | c :: rest =>
    if isSlash kind c then [] :: pieces kind rest
    else match pieces kind rest with
      | [] => [[c]]
      | piece :: others => (c :: piece) :: others

/-- A piece with `%2e` read as a dot. -/
def dots : List Char → List Char
  | '%' :: '2' :: e :: rest => if e = 'e' || e = 'E' then '.' :: dots rest else '%' :: '2' :: e :: rest
  | '.' :: rest => '.' :: dots rest
  | text => text

/-- A letter and a colon, or a bar in its place. -/
def isDrive : List Char → Bool
  | [c, mark] => isAlpha c && (mark = ':' || mark = '|')
  | _ => false

/-- A drive, or a drive and a backslash, which does not end a piece in every scheme. -/
def startsWithDrive : List Char → Bool
  | c :: mark :: '\\' :: _ => isDrive [c, mark]
  | piece => isDrive piece

/-- Leaves the last piece, but never a drive. -/
def up (before : List (List Char)) : List (List Char) :=
  match before.getLast? with
  | some last => if startsWithDrive last then before else before.dropLast
  | none => []

/-- A piece as it stands in the path; the drive at the start of a file's path has a colon. -/
def piece (kind : Kind) (before : List (List Char)) (text : List Char) : List Char :=
  match text with
  | [c, _] =>
    if kind = .file && before.isEmpty && isDrive text then [c, ':']
    else Percent.encode Percent.path text
  | _ => Percent.encode Percent.path text

/-- Follows pieces from a place in a path: one dot stays, two dots go up. -/
def follow (kind : Kind) : List (List Char) → List (List Char) → List (List Char)
  | before, [] => before
  | before, [last] =>
    match dots last with
    | ['.'] => before ++ [[]]
    | ['.', '.'] => up before ++ [[]]
    | _ => before ++ [piece kind before last]
  | before, text :: rest =>
    match dots text with
    | ['.'] => follow kind before rest
    | ['.', '.'] => follow kind (up before) rest
    | _ => follow kind (before ++ [piece kind before text]) rest

/-- In the path of a file, empty pieces at the start count for nothing. -/
def squeeze (kind : Kind) (path : List (List Char)) : List (List Char) :=
  if kind = .file then
    match path.dropWhile List.isEmpty with
    | [] => [[]]
    | path => path
  else path

/-- The host of a file counts for nothing if the path starts with a drive. -/
def dropHost (kind : Kind) (path : List (List Char)) (authority : Option Authority) :
    Option Authority :=
  if kind = .file && path.head?.any isDrive then
    authority.map fun a => { a with host := .name [] }
  else authority

/-- Reads a path from a place, and what follows it. -/
def finish (scheme : String) (authority : Option Authority) (before : List (List Char))
    (text : List Char) : Url :=
  let kind := kindOf scheme
  let path := follow kind before (pieces kind (text.takeWhile fun c => !endsPath c))
  let (query, fragment) := tail kind (text.dropWhile fun c => !endsPath c)
  { scheme, authority := dropHost kind path authority, path := .pieces (squeeze kind path)
    query, fragment }

/-- Reads what follows an authority: the first slash only starts the path. -/
def afterAuthority (scheme : String) (authority : Option Authority) (text : List Char) : Url :=
  let kind := kindOf scheme
  let ended := match text with
    | [] => true
    | c :: _ => endsPath c
  if kind = .other && ended then
    let (query, fragment) := tail kind text
    { scheme, authority, path := .pieces [], query, fragment }
  else match text with
    | c :: rest => if isSlash kind c then finish scheme authority [] rest
      else finish scheme authority [] text
    | [] => finish scheme authority [] []

/-- Name and password, and the host that follows the last `@`; none if there is no `@`. -/
def credentials? (text : List Char) : Option (List Char × List Char) :=
  if text.contains '@' then
    let host := (text.reverse.takeWhile (· ≠ '@')).reverse
    some (text.take (text.length - host.length - 1), host)
  else none

def nameAndPassword (text : List Char) : List Char × List Char :=
  let name := text.takeWhile (· ≠ ':')
  (Percent.encode Percent.userinfo name,
    Percent.encode Percent.userinfo ((text.dropWhile (· ≠ ':')).drop 1))

/-- Cuts a host from the port; colons in brackets belong to the host. -/
def cutPort : Bool → List Char → List Char × Option (List Char)
  | _, [] => ([], none)
  | inside, c :: rest =>
    if c = ':' && !inside then ([], some rest)
    else
      let (host, port) := cutPort (c = '[' || (inside && c ≠ ']')) rest
      (c :: host, port)

/-- A port, none if it is the scheme's own; and what follows its digits. -/
def port (scheme : String) (text : List Char) : Except Error (Option Nat × List Char) :=
  let digits := text.takeWhile Host.isDigit
  let rest := text.dropWhile Host.isDigit
  let n := digits.foldl (fun n c => 10 * n + (c.toNat - 48)) 0
  let unread := match rest with
    | [] => false
    | c :: _ => c ≠ '\\'
  if 65535 < n || unread then .error .badPort
  else if digits.isEmpty || defaultPort? scheme = some n then .ok (none, rest)
  else .ok (some n, rest)

def ofAuthority (scheme : String) (text : List Char) : Except Error Url := do
  let kind := kindOf scheme
  let inside (c : Char) : Bool := !(c = '/' || endsPath c || (kind = .special && c = '\\'))
  let after := text.dropWhile inside
  let found := credentials? (text.takeWhile inside)
  let (login, place) := found.getD ([], text.takeWhile inside)
  if found = some ([], []) && !after.isEmpty then throw .emptyHost
  let (username, password) := nameAndPassword login
  let (hostText, portText) := cutPort false place
  if kind = .special && hostText.isEmpty then throw .emptyHost
  let host ← if kind = .special then Host.ofText hostText else Host.ofOpaque hostText
  let named := !username.isEmpty || !password.isEmpty
  if host.isEmpty && (portText.isSome || named) then throw .emptyHost
  let (port, rest) ← match portText with
    | some text => port scheme text
    | none => .ok (none, [])
  return afterAuthority scheme (some { username, password, host, port }) (rest ++ after)

/-- Reads the address of a file. Without a host, a slash after its place is part of the path. -/
def ofFile (text : List Char) : Except Error Url :=
  let nowhere : Authority := { host := .name [] }
  match text with
  | a :: b :: rest =>
    if isSlash .file a && isSlash .file b then
      let inside (c : Char) : Bool := !(isSlash .file c || endsPath c)
      let hostText := rest.takeWhile inside
      let after := rest.dropWhile inside
      if isDrive hostText then .ok (finish "file" (some nowhere) [] rest)
      else if hostText.isEmpty then .ok (finish "file" (some nowhere) [] after)
      else
        match Host.ofText hostText with
        | .error e => .error e
        | .ok host =>
          if host = .name "localhost".toList then .ok (finish "file" (some nowhere) [] after)
          else .ok (afterAuthority "file" (some { host }) after)
    else if isSlash .file a then .ok (finish "file" (some nowhere) [] (b :: rest))
    else .ok (finish "file" (some nowhere) [] text)
  | _ => .ok (afterAuthority "file" (some nowhere) text)

/-- Reads an address of a scheme that is not the web's own. -/
def ofOther (scheme : String) : List Char → Except Error Url
  | '/' :: '/' :: rest => ofAuthority scheme rest
  | '/' :: rest => .ok (finish scheme none [] rest)
  | text =>
    let path := text.takeWhile fun c => !endsPath c
    let (query, fragment) := tail .other (text.dropWhile fun c => !endsPath c)
    .ok { scheme, authority := none, path := .plain (Percent.encode Percent.control path)
          query, fragment }

def ofScheme (scheme : String) (text : List Char) : Except Error Url :=
  match kindOf scheme with
  | .special => ofAuthority scheme (text.dropWhile (isSlash .special))
  | .file => ofFile text
  | .other => ofOther scheme text

/-- Reads an address that stands on its own. -/
def parse (text : String) : Except Error Url :=
  match scheme? (clean text.toList) with
  | some (scheme, rest) => ofScheme scheme rest
  | none => .error .noBase

/-- Reads a text without a scheme, relative to an address of the web's own schemes. -/
def relative (base : Url) (text : List Char) : Except Error Url :=
  let slashes := text.takeWhile (isSlash .special)
  match text with
  | [] => .ok { base with fragment := none }
  | '#' :: _ => .ok { base with fragment := (tail base.kind text).2 }
  | '?' :: _ =>
    let (query, fragment) := tail base.kind text
    .ok { base with query, fragment }
  | _ =>
    match slashes with
    | [] => .ok (finish base.scheme base.authority base.path.toPieces.dropLast text)
    | [_] => .ok (finish base.scheme base.authority [] (text.drop 1))
    | '/' :: '/' :: _ => ofAuthority base.scheme (text.drop 2)
    | _ => ofAuthority base.scheme (text.drop slashes.length)

/-- Reads an address relative to one of the web's own schemes. -/
def join (base : Url) (text : String) : Except Error Url :=
  let text := clean text.toList
  match scheme? text with
  | some (scheme, rest) =>
    let slashes := rest.takeWhile (isSlash .special)
    if scheme = base.scheme && kindOf scheme = .special && slashes.length < 2 then
      relative base rest
    else ofScheme scheme rest
  | none => relative base text

/-- The address with another path, without query and fragment. -/
def withPath (u : Url) (path : String) : Url :=
  finish u.scheme u.authority [] (path.toList.drop 1)

end CourierTrack.Url
