import CourierTrack.Command.Arguments
import CourierTrack.Command.Setup
/-!
Running what the program was asked for.

Commands about the settings file are done at once. The others read the settings, begin a new log
file, and give a performance.
-/

namespace CourierTrack.Command

open Time

inductive Outcome where
  /-- A text to print, and nothing else. -/
  | text (text : String)
  | perform (performance : Performance)
  /-- A performance along the fixes on standard input. -/
  | follow (start : List Source.Entry → Performance)

def Outcome.ofLines (lines : List String) : Outcome := .text (Settings.ofLines lines)

def version : String := "livetrack 0.3.0"

def usage : List String := [
  "Live delivery position tracking",
  "",
  "Usage: livetrack [--config FILE] [--verbose] COMMAND",
  "",
  "Commands:",
  "  drive     Publish positions read from stdin, one \"lat,lng[,accuracy_m]\" per line",
  "  simulate  Walk a list of waypoints as a demo courier",
  "  watch     Follow a delivery and print position, trail, status and ETA updates",
  "  config    Manage the configuration file (init, show, path)"]

variable {m : Type → Type} [Monad m] [Files.Disk m]

def reset (home path : String) (force : Bool) : m (Except Error Outcome) := do
  if (← Files.Disk.kind? path).isSome && !force then
    return .ok (.ofLines [
      "Configuration file already exists: " ++ path,
      "Use --force to overwrite it with defaults."])
  else
    match ← Settings.save path (.default home) with
    | .error e => return .error (.settings e)
    | .ok () => return .ok (.ofLines [
        "Configuration file: " ++ path,
        "",
        "Edit this file to set the site origin and tune the gate.",
        "CLI arguments override config file values when specified."])

/-- Does what is asked about the settings file at a path. -/
def manage (home path : String) : SettingsTask → m (Except Error Outcome)
  | .reset force => reset home path force
  | .print => do
    match ← Settings.load home path with
    | .error e => return .error (.settings e)
    | .ok s => return .ok (.text s.toText)
  | .path => return .ok (.ofLines [path])

def beginLog (s : Settings) : m (Except Error Unit) := do
  match ← Files.makeDirectories s.logDirectory with
  | .error e => return .error (.log e)
  | .ok () =>
    let result ← Files.Disk.write (Files.Path.join s.logDirectory s.logFile) []
    return result.mapError .log

/-- The performance of a task, by the settings. -/
def perform (s : Settings) (clock : Instant) : DeliveryTask → Except Error Outcome
  | .drive d => (d.setup s clock).map .follow
  | .simulate w =>
    if w.loopback then .ok (.perform (w.demo s clock none))
    else (w.setup s clock).map .perform
  | .watch w => (w.setup s clock).map .perform

/-- Reads the settings at a path, begins the log, and sets a task up. -/
def start (home path : String) (clock : Instant) (task : DeliveryTask) :
    m (Except Error Outcome) := do
  match ← Settings.load home path with
  | .error e => return .error (.settings e)
  | .ok s =>
    match ← beginLog s with
    | .error e => return .error e
    | .ok () => return perform s clock task

def run (home path : String) (clock : Instant) : Command → m (Except Error Outcome)
  | .settings task => manage home path task
  | .delivery task => start home path clock task

def invoke (home : String) (clock : Instant) (i : Invocation) : m (Except Error Outcome) :=
  run home (i.settingsFile.getD (Settings.defaultFile home)) clock i.command

end CourierTrack.Command
