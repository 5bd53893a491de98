import CourierTrack.Settings.Basic
/-!
What the program can be asked to do.
-/

namespace CourierTrack

namespace Command

/-- Which delivery is meant, and where it lives, as far as the settings do not tell. -/
structure Target where
  delivery : Option DeliveryId := none
  origin : Option String := none
  channel : Option String := none
  deriving Repr, DecidableEq

/-- Sends the fixes on standard input. -/
structure Drive where
  target : Target := {}
  /-- Whether positions are stored even if the settings do not say so. -/
  persist : Bool := false
  status : Option String := none
  minIntervalSecs : Option Nat := none
  minDistance : Option Float := none
  deriving Repr

/-- Walks along waypoints. -/
structure Simulate where
  target : Target := {}
  waypoints : List Point
  tickMs : Option Nat := none
  /-- Whether the walk stays within the program, with a watcher of its own. -/
  loopback : Bool := false
  deriving Repr

/-- Prints what happens to a delivery. -/
structure Watch where
  target : Target := {}
  destination : Option Point := none
  historyLimit : Option Nat := none
  withHistory : Bool := true
  speedKmph : Option Float := none
  deriving Repr

/-- What is done about a delivery. -/
inductive DeliveryTask where
  | drive (task : Drive)
  | simulate (task : Simulate)
  | watch (task : Watch)
  deriving Repr

/-- What is done about the settings file. -/
inductive SettingsTask where
  /-- Writes the default settings; an existing file is kept unless `force` is set. -/
  | reset (force : Bool)
  | print
  | path
  deriving Repr, DecidableEq

end Command

open Command in
inductive Command where
  | delivery (task : DeliveryTask)
  | settings (task : SettingsTask)
  deriving Repr

/-- A command with what is asked of the program as a whole. -/
structure Invocation where
  /-- The settings file, if it is not the one in the home directory. -/
  settingsFile : Option String := none
  verbose : Bool := false
  command : Command
  deriving Repr

end CourierTrack
