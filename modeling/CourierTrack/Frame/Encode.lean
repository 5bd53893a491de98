import CourierTrack.Frame.Basic
/-!
Frames as JSON objects. Most fields that are empty are left out; a route writes its empty numbers
as `null`.
-/

namespace CourierTrack

/-- A float that is not finite has no JSON form. -/
def Json.ofFloat (x : Float) : Json := if x.isFinite then .float x else .null

def Point.toJson (p : Point) : Json := .array [.ofFloat p.lat, .ofFloat p.lng]

def Point.toObject (p : Point) : Json :=
  .ofMembers [("lat", .ofFloat p.lat), ("lng", .ofFloat p.lng)]

namespace Frame

/-- A member that is left out when empty. -/
def optional (name : String) : Option Json → List (String × Json)
  | none => []
  | some value => [(name, value)]

/-- A member that is written as `null` when empty. -/
def nullable (name : String) (value : Option Json) : List (String × Json) :=
  [(name, value.getD .null)]

def payload : Frame → List (String × Json)
  | .position u =>
    [("lat", .ofFloat u.point.lat), ("lng", .ofFloat u.point.lng)]
      ++ optional "status" (u.status.map .text) ++ optional "ts" (u.time.map Timestamp.toJson)
  | .status text => [("status", .text text)]
  | .statusUpdate text => [("status", .text text)]
  | .error r =>
    optional "error" (r.error.map .text) ++ optional "message" (r.message.map .text)
      ++ optional "code" r.code
  | .hello => []
  | .probeAck => []
  | .route r =>
    [("coords", .array (r.points.map Point.toJson))]
      ++ nullable "distance_km" (r.distanceKm.map .ofFloat)
      ++ nullable "duration_min" (r.durationMin.map .ofFloat)
  | .init i =>
    optional "destination" (i.destination.map Point.toObject)
      ++ optional "status" (i.status.map .text)
  | .tick t =>
    [("lat", .ofFloat t.point.lat), ("lng", .ofFloat t.point.lng)]
      ++ optional "status" (t.status.map .text) ++ optional "progress" (t.progress.map .ofFloat)
  | .complete c =>
    optional "lat" (c.lat.map .ofFloat) ++ optional "lng" (c.lng.map .ofFloat)
      ++ optional "status" (c.status.map .text)
  | .unknown _ => []

def toJson (f : Frame) : Json := .ofMembers (f.payload ++ [("type", .text f.kind)])

def encode (f : Frame) : String := f.toJson.render

end Frame

end CourierTrack
