import CourierTrack.Frame.Timestamp
import CourierTrack.Geo.Point
import CourierTrack.Json.Writer
/-!
The frames that travel over a channel. A frame of a type unknown here keeps only its type.
-/

namespace CourierTrack

open Time

structure PositionUpdate where
  point : Point
  status : Option String := none
  time : Option Timestamp := none
  deriving Repr, DecidableEq

/-- An error reported by the server, which fills any of the three fields. -/
structure ErrorReport where
  error : Option String := none
  message : Option String := none
  code : Option Json := none
  deriving Repr

/-- A path computed by the server; without a duration it fell back to a straight line. -/
structure Route where
  points : List Point := []
  distanceKm : Option Float := none
  durationMin : Option Float := none
  deriving Repr, DecidableEq

structure InitFrame where
  destination : Option Point := none
  status : Option String := none
  deriving Repr, DecidableEq

structure TickFrame where
  point : Point
  status : Option String := none
  progress : Option Float := none
  deriving Repr, DecidableEq

structure CompleteFrame where
  lat : Option Float := none
  lng : Option Float := none
  status : Option String := none
  deriving Repr, DecidableEq

inductive Frame where
  | position (update : PositionUpdate)
  | status (text : String)
  | statusUpdate (text : String)
  | error (report : ErrorReport)
  | hello
  | probeAck
  | route (route : Route)
  | init (init : InitFrame)
  | tick (tick : TickFrame)
  | complete (complete : CompleteFrame)
  | unknown (kind : String)
  deriving Repr

namespace PositionUpdate

def instant? (u : PositionUpdate) : Option Instant := u.time.bind Timestamp.instant?

end PositionUpdate

namespace ErrorReport

/-- The most telling description: the error, then the message, then the code. -/
def describe (r : ErrorReport) : String :=
  match r.error, r.message, r.code with
  | some error, _, _ => error
  | none, some message, _ => message
  | none, none, some (.text code) => code
  | none, none, some .null => "unknown_error"
  | none, none, none => "unknown_error"
  | none, none, some code => code.render

end ErrorReport

namespace CompleteFrame

/-- The final point, if both coordinates are given. -/
def point? (c : CompleteFrame) : Option Point :=
  match c.lat, c.lng with
  | some lat, some lng => some ⟨lat, lng⟩
  | _, _ => none

end CompleteFrame

namespace Frame

/-- The text of the member `type`. -/
def kind : Frame → String
  | .position _ => "position_update"
  | .status _ => "status"
  | .statusUpdate _ => "status_update"
  | .error _ => "error"
  | .hello => "hello"
  | .probeAck => "probe_ack"
  | .route _ => "route"
  | .init _ => "init"
  | .tick _ => "tick"
  | .complete _ => "complete"
  | .unknown kind => kind

def atPosition (point : Point) (status : Option String) (time : Option Instant) : Frame :=
  .position ⟨point, status, time.map Timestamp.ofInstant⟩

end Frame

end CourierTrack
