import CourierTrack.Files.Path
/-!
What a program does with files: ask what stands at a path, read, write, and make directories.
-/

namespace CourierTrack.Files

inductive Error where
  | missing
  | occupied
  | notDirectory
  | isDirectory
  | other (text : String)
  deriving Repr, DecidableEq

def Error.message : Error → String
  | .missing => "No such file or directory (os error 2)"
  | .occupied => "File exists (os error 17)"
  | .notDirectory => "Not a directory (os error 20)"
  | .isDirectory => "Is a directory (os error 21)"
  | .other text => text

inductive Kind where
  | file
  | directory
  deriving Repr, DecidableEq

/-- A place where files are kept. -/
class Disk (m : Type → Type) where
  kind? : String → m (Option Kind)
  read : String → m (Except Error (List UInt8))
  write : String → List UInt8 → m (Except Error Unit)
  makeDirectory : String → m (Except Error Unit)

variable {m : Type → Type} [Monad m] [Disk m]

/-- Makes a directory; one that is there already will do. -/
def ensureDirectory (path : String) : m (Except Error Unit) := do
  match ← Disk.makeDirectory path with
  | .ok () => return .ok ()
  | .error e =>
    if (← Disk.kind? path) = some .directory then return .ok () else return .error e

/-- Makes a directory given by its pieces from the last one on, and those above it if it has to. -/
def ensureUpward (absolute : Bool) : List String → m (Except Error Unit)
  | [] => return .ok ()
  | piece :: above => do
    let path := Path.ofPieces absolute (piece :: above).reverse
    match ← ensureDirectory path with
    | .error .missing =>
      match ← ensureUpward absolute above with
      | .ok () => ensureDirectory path
      | .error e => return .error e
    | result => return result

/-- Makes a directory with all that lie above it. -/
def makeDirectories (path : String) : m (Except Error Unit) :=
  ensureUpward (Path.isAbsolute path) (Path.pieces path).reverse

/-- Makes the directories above a path. -/
def makeRoom (path : String) : m (Except Error Unit) :=
  ensureUpward (Path.isAbsolute path) (Path.pieces path).reverse.tail

end CourierTrack.Files
