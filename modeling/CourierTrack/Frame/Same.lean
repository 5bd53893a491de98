import CourierTrack.Frame.Basic
/-!
When two frames say the same: their numbers are compared as numbers.
-/

namespace CourierTrack

namespace PositionUpdate

def same (a b : PositionUpdate) : Bool :=
  a.point == b.point && a.status == b.status && a.time == b.time

end PositionUpdate

/-- Optional numbers compared as numbers. -/
def sameNumber : Option Float → Option Float → Bool
  | none, none => true
  | some x, some y => x == y
  | _, _ => false

def samePlace : Option Point → Option Point → Bool
  | none, none => true
  | some p, some q => p == q
  | _, _ => false

def sameCode : Option Json → Option Json → Bool
  | none, none => true
  | some a, some b => a == b
  | _, _ => false

namespace Frame

def same : Frame → Frame → Bool
  | .position a, .position b => a.same b
  | .status a, .status b => a == b
  | .statusUpdate a, .statusUpdate b => a == b
  | .error a, .error b => a.error == b.error && a.message == b.message && sameCode a.code b.code
  | .hello, .hello => true
  | .probeAck, .probeAck => true
  | .route a, .route b =>
    Point.sameAll a.points b.points && sameNumber a.distanceKm b.distanceKm
      && sameNumber a.durationMin b.durationMin
  | .init a, .init b => samePlace a.destination b.destination && a.status == b.status
  | .tick a, .tick b =>
    a.point == b.point && a.status == b.status && sameNumber a.progress b.progress
  | .complete a, .complete b =>
    sameNumber a.lat b.lat && sameNumber a.lng b.lng && a.status == b.status
  | .unknown a, .unknown b => a == b
  | _, _ => false

end Frame

end CourierTrack
