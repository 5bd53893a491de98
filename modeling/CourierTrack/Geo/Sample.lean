import CourierTrack.Geo.Point
import CourierTrack.Time.Instant
/-!
A single fix from a position source.
-/

namespace CourierTrack

open Time

structure Sample where
  point : Point
  /-- Reported accuracy in metres, if the source gives one. -/
  accuracy : Option Float
  captured : Instant
  deriving Repr, DecidableEq

namespace Sample

def checkAccuracy : Option Float → Except GeoError Unit
  | none => .ok ()
  | some x => if x.isFinite && !(x < 0) then .ok () else .error (.accuracy x)

/-- A sample with its point in range and an accuracy that is a distance. -/
def checked (lat lng : Float) (accuracy : Option Float) (captured : Instant) :
    Except GeoError Sample := do
  let point ← Point.checked lat lng
  checkAccuracy accuracy
  return ⟨point, accuracy, captured⟩

end Sample

end CourierTrack
