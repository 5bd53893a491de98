import CourierTrack.Text.Blank
/-!
Names of files and directories: pieces between slashes, from the root if a slash stands first.
-/

namespace CourierTrack.Files

namespace Path

def isAbsolute (path : String) : Bool :=
  match path.toList with
  | '/' :: _ => true
  | _ => false

/-- Whether a path can name a directory only. -/
def endsInSlash (path : String) : Bool := path.toList.getLast? = some '/'

def join (path other : String) : String :=
  if isAbsolute other || path.isEmpty then other
  else if endsInSlash path then path ++ other
  else path ++ "/" ++ other

/-- The pieces that lead to a path; empty ones count for nothing. -/
def steps (path : String) : List String :=
  ((Text.splitAt '/' path.toList).filter fun p => !p.isEmpty).map String.ofList

/-- Empty pieces count for nothing, nor do single dots except at the start. -/
def pieces (path : String) : List String :=
  let all := (Text.splitAt '/' path.toList).map String.ofList
  let rest := all.drop 1 |>.filter fun p => !(p.isEmpty || p = ".")
  match all with
  | "" :: _ => rest
  | "." :: _ => if isAbsolute path then rest else "." :: rest
  | first :: _ => first :: rest
  | [] => rest

def ofPieces (absolute : Bool) (pieces : List String) : String :=
  (if absolute then "/" else "") ++ "/".intercalate pieces

def same (a b : String) : Bool := isAbsolute a == isAbsolute b && pieces a == pieces b

end Path

end CourierTrack.Files
