import CourierTrack.Command.Program
/-!
The command line: reads files and standard input, and prints what a command prints when its time
has come.
-/

namespace CourierTrack.Program

open Time Bench Command

def fileError : IO.Error → Files.Error
  | .noFileOrDirectory _ _ _ => .missing
  | .alreadyExists _ _ _ => .occupied
  | .inappropriateType _ 20 _ => .notDirectory
  | .inappropriateType _ 21 _ => .isDirectory
  | .permissionDenied _ code _ =>
    .other ("Permission denied (os error " ++ toString code ++ ")")
  | e => .other (toString e)

def attempt (action : IO α) : IO (Except Files.Error α) := do
  match ← action.toBaseIO with
  | .ok a => return .ok a
  | .error e => return .error (fileError e)

instance : Files.Disk IO where
  kind? path := do
    match ← attempt (IO.FS.withFile path .read fun file => file.read 1) with
    | .ok _ => return some .file
    | .error .isDirectory => return some .directory
    | .error (.other _) => return some .file
    | .error _ => return none
  read path := attempt do return (← IO.FS.readBinFile path).toList
  write path content := attempt (IO.FS.writeBinFile path ⟨content.toArray⟩)
  makeDirectory path := attempt (IO.FS.createDir path)

/-- The reading of a clock that began with the program. -/
def elapsed (start : Nat) : IO Reading := do return Span.millis ((← IO.monoMsNow) - start)

def printNew (done : Nat) (lines : List String) : IO Nat := do
  for line in lines.drop done do IO.println line
  (← IO.getStdout).flush
  return lines.length

/-- Plays a performance in real time; `done` lines are printed already. -/
partial def play (start done : Nat) (p : Performance) : IO Unit := do
  let p := settle p
  let done ← printNew done p.lines
  match Timed.next? p with
  | none => return
  | some due =>
    let now ← elapsed start
    if now < due then IO.sleep (UInt32.ofNat (Span.toMillis (due - now)))
    play start done (Timed.setNow due p)

/-- Reads the fixes on standard input, with the times of their lines. -/
partial def readFeed (start : Nat) (clock : Instant) (last : Reading) :
    IO (List Source.Entry) := do
  let line := (← (← IO.getStdin).getLine).toUTF8.toList
  if line.isEmpty then return []
  let now ← elapsed start
  let entries := (Source.lineFeed clock line).map fun entry => { entry with after := now - last }
  return entries ++ (← readFeed start clock now)

def perform (start : Nat) (clock : Instant) : Outcome → IO Unit
  | .text text => IO.print text
  | .perform p => play start 0 p
  | .follow begin => do
    let done ← printNew 0 (begin []).opening
    play start done (begin (← readFeed start clock 0))

def home : IO String := do return (← IO.getEnv "HOME").getD "."

end CourierTrack.Program

open CourierTrack Program in
/-- Runs the words as a command. The exit code is 2 if they are none, and 1 if the command fails. -/
def main (words : List String) : IO UInt32 := do
  match Command.ofWords words with
  | .error .help => IO.print (Settings.ofLines Command.usage); return 0
  | .error .version => IO.println Command.version; return 0
  | .error .wrong => IO.eprint (Settings.ofLines Command.usage); return 2
  | .ok invocation =>
    let start ← IO.monoMsNow
    -- nothing that is printed depends on the wall clock
    let clock := Time.Instant.epoch
    match ← Command.invoke (← home) clock invocation with
    | .error e => IO.eprint (Settings.ofLines e.lines); return 1
    | .ok outcome => perform start clock outcome; return 0
