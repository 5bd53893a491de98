import CourierTrack.Geo.Distance
import CourierTrack.Geo.Sample
import CourierTrack.Time.Span
/-!
The gate decides which fixes are worth sending: the first one, and after it those that come late
enough and far enough from the last one sent.
-/

namespace CourierTrack

open Time

structure GateConfig where
  minInterval : Span := Span.seconds 8
  /-- Least movement between sent fixes, in metres. -/
  minDistance : Float := 25
  deriving Repr, DecidableEq

/-- A fix that passed the gate, with the clock reading. -/
structure Fix where
  point : Point
  time : Reading
  deriving Repr, DecidableEq

structure Gate where
  config : GateConfig
  last : Option Fix := none
  deriving Repr, DecidableEq

namespace Gate

def ofConfig (config : GateConfig) : Gate := { config }

/-- A clock that went back counts as standing still. -/
def elapsed (last : Fix) (now : Reading) : Span := now - last.time

/-- Whether a fix at `point` is to be sent after `last`. -/
def admits (config : GateConfig) (last : Option Fix) (point : Point) (now : Reading) : Bool :=
  match last with
  | none => true
  | some fix =>
    config.minInterval ≤ elapsed fix now && fix.point.distanceM point ≥ config.minDistance

/-- Records a fix that is sent without asking the gate. -/
def record (g : Gate) (point : Point) (now : Reading) : Gate := { g with last := some ⟨point, now⟩ }

/-- Asks the gate, and records the fix if it passes. -/
def offer (g : Gate) (point : Point) (now : Reading) : Bool × Gate :=
  if admits g.config g.last point now then (true, g.record point now) else (false, g)

/-- The next fix passes again. -/
def reset (g : Gate) : Gate := { g with last := none }

def movedM? (g : Gate) (point : Point) : Option Float := g.last.map (·.point.distanceM point)

end Gate

end CourierTrack
