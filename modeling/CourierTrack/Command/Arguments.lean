import CourierTrack.Command.Basic
import CourierTrack.Command.Flag
/-!
The words after the program's name. The options of the whole program may stand before or after a
command; of several settings files the one furthest to the right counts.
-/

namespace CourierTrack.Command

def commonFlags : List Flag := [
  { long := "config", value := some .path },
  { long := "verbose", short := some 'v' }]

def targetFlags : List Flag := [
  { long := "delivery", short := some 'd', value := some .natural },
  { long := "origin", value := some .text },
  { long := "channel-url", value := some .text }]

def programLevel : Level :=
  { flags := commonFlags, versioned := true
    commands := ["drive", "simulate", "watch", "config", "help"] }

def settingsLevel : Level :=
  { flags := commonFlags, commands := ["init", "show", "path", "help"] }

def initLevel : Level := { flags := commonFlags ++ [{ long := "force" }] }

def plainLevel : Level := { flags := commonFlags }

def driveLevel : Level :=
  { flags := commonFlags ++ targetFlags ++ [
      { long := "persist" },
      { long := "status", value := some .text },
      { long := "min-interval-secs", value := some .natural },
      { long := "min-distance-m", value := some .float }] }

def simulateLevel : Level :=
  { flags := commonFlags ++ targetFlags ++ [
      { long := "waypoint", short := some 'w', value := some .point, repeatable := true },
      { long := "tick-ms", value := some .natural },
      { long := "loopback" }] }

def watchLevel : Level :=
  { flags := commonFlags ++ targetFlags ++ [
      { long := "destination", value := some .point },
      { long := "history-limit", value := some .natural },
      { long := "no-history" },
      { long := "speed-kmph", value := some .float }] }

def topics : List (List String) := [
  [], ["drive"], ["simulate"], ["watch"], ["help"], ["config"], ["config", "init"],
  ["config", "show"], ["config", "path"], ["config", "help"]]

def helpAbout (topic : List String) : Stop := if topics.contains topic then .help else .wrong

def Given.target (given : Given) : Target :=
  { delivery := (given.natural? "delivery").map UInt64.ofNat
    origin := given.text? "origin"
    channel := given.text? "channel-url" }

/-- A command with the options of the whole program, given at some levels. -/
def invocation (levels : List Given) (command : Command) : Invocation :=
  { settingsFile := levels.reverse.findSome? fun given => given.text? "config"
    verbose := levels.any fun given => given.has "verbose"
    command }

def Given.drive (given : Given) : Drive :=
  { target := given.target
    persist := given.has "persist"
    status := given.text? "status"
    minIntervalSecs := given.natural? "min-interval-secs"
    minDistance := given.float? "min-distance-m" }

/-- A walk has at least one waypoint. -/
def Given.simulate (given : Given) : Except Stop Simulate :=
  if given.has "waypoint" then
    .ok { target := given.target
          waypoints := given.points "waypoint"
          tickMs := given.natural? "tick-ms"
          loopback := given.has "loopback" }
  else .error .wrong

def Given.watch (given : Given) : Watch :=
  { target := given.target
    destination := (given.points "destination").head?
    historyLimit := given.natural? "history-limit"
    withHistory := !given.has "no-history"
    speedKmph := given.float? "speed-kmph" }

/-- Reads a command that has to do with the settings file. -/
def ofSettingsWords (program : Given) (words : List String) : Except Stop Invocation := do
  let (above, next) ← settingsLevel.scan [] words
  match next with
  | some ("init", rest) =>
    let (own, _) ← initLevel.scan [] rest
    return invocation [program, above, own] (.settings (.reset (own.has "force")))
  | some ("show", rest) =>
    let (own, _) ← plainLevel.scan [] rest
    return invocation [program, above, own] (.settings .print)
  | some ("path", rest) =>
    let (own, _) ← plainLevel.scan [] rest
    return invocation [program, above, own] (.settings .path)
  | some (_, topic) => .error (helpAbout ("config" :: topic))
  | none => .error .wrong

/-- Reads the words after the program's name. -/
def ofWords (words : List String) : Except Stop Invocation := do
  let (program, next) ← programLevel.scan [] words
  match next with
  | some ("config", rest) => ofSettingsWords program rest
  | some ("drive", rest) =>
    let (own, _) ← driveLevel.scan [] rest
    return invocation [program, own] (.delivery (.drive own.drive))
  | some ("simulate", rest) =>
    let (own, _) ← simulateLevel.scan [] rest
    return invocation [program, own] (.delivery (.simulate (← own.simulate)))
  | some ("watch", rest) =>
    let (own, _) ← watchLevel.scan [] rest
    return invocation [program, own] (.delivery (.watch own.watch))
  | some (_, topic) => .error (helpAbout topic)
  | none => .error .wrong

end CourierTrack.Command
