import CourierTrack.Files.Basic
import CourierTrack.Settings.Reader
import CourierTrack.Settings.Writer
/-!
Settings in a file. A file that is not there stands for the default settings.
-/

namespace CourierTrack.Settings

inductive FileError where
  | text (cause : SettingsError)
  | unreadable (cause : Files.Error)
  /-- The file holds no text. -/
  | undecodable
  | directory (cause : Files.Error)
  | unwritable (cause : Files.Error)
  deriving Repr, DecidableEq

/-- What went wrong, without its cause. -/
def FileError.summary : FileError → String
  | .text (.value place key value reason) => SettingsError.valueMessage place key value reason
  | .directory _ => "Failed to create config directory"
  | .unwritable _ => "Failed to write config file"
  | _ => "Failed to read config file"

def FileError.cause? : FileError → Option String
  | .text .unreadable => some "text without sections and entries"
  | .text (.value _ _ _ _) => none
  | .undecodable => some "stream did not contain valid UTF-8"
  | .unreadable e => some e.message
  | .directory e => some e.message
  | .unwritable e => some e.message

def FileError.message (e : FileError) : String :=
  match e.cause? with
  | some cause => e.summary ++ ": " ++ cause
  | none => e.summary

/-- The bytes that may stand before a text to tell how it is encoded. -/
def byteOrderMark : List UInt8 := [0xEF, 0xBB, 0xBF]

def ofBytes (home : String) (bytes : List UInt8) : Except FileError Settings :=
  let bytes := if byteOrderMark.isPrefixOf bytes then bytes.drop 3 else bytes
  match String.fromUTF8? ⟨bytes.toArray⟩ with
  | none => .error .undecodable
  | some text => (ofText home text).mapError .text

variable {m : Type → Type} [Monad m] [Files.Disk m]

def load (home path : String) : m (Except FileError Settings) := do
  match ← Files.Disk.kind? path with
  | none => return .ok (default home)
  | some _ =>
    match ← Files.Disk.read path with
    | .error e => return .error (.unreadable e)
    | .ok bytes => return ofBytes home bytes

/-- Writes settings, and makes the directories above their file. -/
def save (path : String) (s : Settings) : m (Except FileError Unit) := do
  match ← Files.makeRoom path with
  | .error e => return .error (.directory e)
  | .ok () =>
    match ← Files.Disk.write path s.toText.toUTF8.toList with
    | .error e => return .error (.unwritable e)
    | .ok () => return .ok ()

end CourierTrack.Settings
