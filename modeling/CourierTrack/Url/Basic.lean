import CourierTrack.Url.Host
/-!
An address: a scheme, and after it an authority and a path, a query, a fragment.
-/

namespace CourierTrack

namespace Url

/-- Schemes differ in how the rest of an address is read. -/
inductive Kind where
  /-- The web's own schemes, which always have a host and a path. -/
  | special
  | file
  | other
  deriving Repr, DecidableEq

def kindOf (scheme : String) : Kind :=
  if ["http", "https", "ws", "wss", "ftp"].contains scheme then .special
  else if scheme = "file" then .file
  else .other

/-- The port that need not be written. -/
def defaultPort? : String → Option Nat
  | "http" => some 80
  | "ws" => some 80
  | "https" => some 443
  | "wss" => some 443
  | "ftp" => some 21
  | _ => none

structure Authority where
  username : List Char := []
  password : List Char := []
  host : Host
  /-- A port other than the scheme's own. -/
  port : Option Nat := none
  deriving Repr, DecidableEq

inductive Path where
  /-- Pieces, each after a slash. -/
  | pieces (pieces : List (List Char))
  /-- A text without structure. -/
  | plain (text : List Char)
  deriving Repr, DecidableEq

end Url

structure Url where
  scheme : String
  authority : Option Url.Authority
  path : Url.Path
  query : Option (List Char) := none
  fragment : Option (List Char) := none
  deriving Repr, DecidableEq

namespace Url

namespace Authority

/-- Name and password before the host. -/
def credentials (a : Authority) : List Char :=
  match a.username, a.password with
  | [], [] => []
  | name, [] => name ++ ['@']
  | name, password => name ++ ':' :: password ++ ['@']

def text (a : Authority) : List Char :=
  a.credentials ++ a.host.text ++ match a.port with
    | some port => ':' :: Nat.toDigits 10 port
    | none => []

end Authority

/-- The pieces of a path that has them. -/
def Path.toPieces : Path → List (List Char)
  | .pieces all => all
  | .plain _ => []

def Path.text : Path → List Char
  | .pieces all => all.flatMap ('/' :: ·)
  | .plain text => text

/-- An optional part after its mark. -/
def marked (mark : Char) : Option (List Char) → List Char
  | some text => mark :: text
  | none => []

/-- A path that starts with two slashes is set apart from an authority by a dot. -/
def guarded (u : Url) : List Char :=
  match u.authority, u.path with
  | none, .pieces ([] :: _ :: _) => "/.".toList
  | _, _ => []

def authorityText (u : Url) : List Char :=
  match u.authority with
  | some a => "//".toList ++ a.text
  | none => []

def toText (u : Url) : String :=
  String.ofList (u.scheme.toList ++ ':' :: u.authorityText ++ u.guarded ++ u.path.text
    ++ marked '?' u.query ++ marked '#' u.fragment)

def kind (u : Url) : Kind := kindOf u.scheme

/-- Adds a name and its value at the end of the query. -/
def addQuery (u : Url) (name value : String) : Url :=
  let pair := name.toList ++ '=' :: value.toList
  match u.query with
  | none => { u with query := some pair }
  | some [] => { u with query := some pair }
  | some query => { u with query := some (query ++ '&' :: pair) }

end Url

end CourierTrack
