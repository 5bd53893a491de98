import CourierTrack.Files.Basic
/-!
Files in memory. An entry is a file or a directory, under its names from the root on.
-/

namespace CourierTrack.Files

inductive Entry where
  | file (content : List UInt8)
  | directory
  deriving Repr, DecidableEq

structure Tree where
  /-- The directory that relative paths start from. -/
  current : List String := []
  /-- What is below the root; the newest entry for some names counts. -/
  entries : List (List String × Entry) := []
  deriving Repr

namespace Tree

/-- What stands under some names; the root is always there. -/
def entry? (t : Tree) (names : List String) : Option Entry :=
  if names.isEmpty then some .directory
  else (t.entries.find? fun entry => entry.1 = names).map Prod.snd

def put (t : Tree) (names : List String) (entry : Entry) : Tree :=
  { t with entries := (names, entry) :: t.entries.filter fun other => other.1 ≠ names }

/-- The tree with the directories above some names. -/
def withRoom (t : Tree) (names : List String) : Tree :=
  (List.range names.length).foldl (fun t n =>
    if (t.entry? (names.take n)).isSome then t else t.put (names.take n) .directory) t

def withFile (t : Tree) (names : List String) (content : List UInt8) : Tree :=
  (t.withRoom names).put names (.file content)

/-- A directory with some files. -/
def ofFiles (current : List String) (files : List (String × List UInt8)) : Tree :=
  files.foldl (fun t (path, content) => t.withFile (current ++ Path.pieces path) content)
    (Tree.put (withRoom { current } current) current .directory)

/-- One piece of a path, as seen from a place that has to be a directory. -/
def follow (t : Tree) (place : List String) (piece : String) : Except Error (List String) :=
  match t.entry? place with
  | none => .error .missing
  | some (.file _) => .error .notDirectory
  | some .directory =>
    .ok (if piece = "." then place else if piece = ".." then place.dropLast else place ++ [piece])

/-- The names that a path stands for. -/
def locate (t : Tree) (path : String) : Except Error (List String) :=
  (Path.steps path).foldlM t.follow (if Path.isAbsolute path then [] else t.current)

def look (t : Tree) (path : String) : Except Error Entry := do
  let names ← t.locate path
  match t.entry? names with
  | none => .error .missing
  | some (.file content) =>
    if Path.endsInSlash path then .error .notDirectory else .ok (.file content)
  | some .directory => .ok .directory

def kind? (t : Tree) (path : String) : Option Kind :=
  match t.look path with
  | .ok (.file _) => some .file
  | .ok .directory => some .directory
  | .error _ => none

def read (t : Tree) (path : String) : Except Error (List UInt8) := do
  match ← t.look path with
  | .file content => .ok content
  | .directory => .error .isDirectory

def write (t : Tree) (path : String) (content : List UInt8) : Except Error Tree := do
  let names ← t.locate path
  match t.entry? names with
  | some .directory => .error .isDirectory
  | _ => if Path.endsInSlash path then .error .isDirectory else .ok (t.put names (.file content))

def makeDirectory (t : Tree) (path : String) : Except Error Tree := do
  let names ← t.locate path
  match t.entry? names with
  | some _ => .error .occupied
  | none => .ok (t.put names .directory)

/-- Does something to the tree, unless it fails. -/
def update (change : Tree → Except Error Tree) : StateM Tree (Except Error Unit) := fun t =>
  match change t with
  | .ok t => (.ok (), t)
  | .error e => (.error e, t)

instance : Disk (StateM Tree) where
  kind? path := fun t => (t.kind? path, t)
  read path := fun t => (t.read path, t)
  write path content := update fun t => t.write path content
  makeDirectory path := update fun t => t.makeDirectory path

/-- The names of the files below a directory, as seen from there. -/
def filesBelow (t : Tree) (place : List String) : List String :=
  t.entries.filterMap fun (names, entry) =>
    match entry with
    | .file _ =>
      if place.isPrefixOf names then some (Path.ofPieces false (names.drop place.length)) else none
    | .directory => none

end Tree

end CourierTrack.Files
