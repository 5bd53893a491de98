import CourierTrack.Geo.Distance
/-!
Estimates of distance and arrival time.
-/

namespace CourierTrack

/-- Where an estimate comes from: a straight line at the assumed speed, or the server's route. -/
inductive EtaSource where
  | straightLine
  | route
  deriving Repr, DecidableEq

structure Eta where
  distanceKm : Float
  minutes : UInt32
  source : EtaSource
  deriving Repr, DecidableEq

namespace Eta

/-- The text of an estimate, such as `2.35 km ~ 5 min`. -/
def display (e : Eta) : String :=
  Decimal.fixed 2 e.distanceKm ++ " km ~ " ++ toString e.minutes.toNat ++ " min"

end Eta

/-- Estimates times along a straight line at one assumed speed. -/
structure Estimator where
  speedKmph : Float
  deriving Repr, DecidableEq

namespace Estimator

def defaultSpeed : Float := 30

/-- A speed that is no positive number is replaced by the default. -/
def ofSpeed (speed : Float) : Estimator :=
  if speed.isFinite && speed > 0 then ⟨speed⟩ else ⟨defaultSpeed⟩

/-- No estimate is below one minute. -/
def atLeastOne (minutes : Float) : UInt32 := max minutes.toUInt32 1

/-- Whole minutes for a distance, a half rounded away from zero; one if there is no such number. -/
def minutesFor (e : Estimator) (distanceKm : Float) : UInt32 :=
  let minutes := (distanceKm / e.speedKmph * 60).round
  if minutes.isFinite then atLeastOne minutes else 1

def estimate (e : Estimator) (position destination : Point) : Eta :=
  let distance := position.distanceKm destination
  ⟨distance, e.minutesFor distance, .straightLine⟩

/-- The estimate for a route; without a duration its minutes come from the distance. -/
def ofRoute (e : Estimator) (distanceKm : Float) (duration : Option Float) : Eta :=
  let minutes := match duration with
    | some d => if d.isFinite && d ≥ 0 then atLeastOne d.round else e.minutesFor distanceKm
    | none => e.minutesFor distanceKm
  ⟨distanceKm, minutes, .route⟩

end Estimator

end CourierTrack
