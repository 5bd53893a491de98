import CourierTrack.Frame.Basic
import CourierTrack.Json.Reader
/-!
Reading frames. A frame is a JSON object with a text member `type`; for each known type the fields
must have their shapes, and members that are no fields of it are ignored.
-/

namespace CourierTrack

/-- Why a text is no frame. -/
inductive FrameError where
  | malformed
  | notAnObject
  | missingType
  | invalidPayload (kind : String)
  deriving Repr, DecidableEq

def FrameError.message : FrameError → String
  | .malformed => "Malformed frame"
  | .notAnObject => "Frame is not a JSON object"
  | .missingType => "Frame has no 'type' field"
  | .invalidPayload kind => "Invalid '" ++ kind ++ "' payload"

namespace Json

def number? : Json → Option Float
  | .integer n => some (Float.ofInt n.value)
  | .float x => some x
  | _ => none

def text? : Json → Option String
  | .text s => some s
  | _ => none

/-- A pair of numbers. -/
def point? : Json → Option Point
  | .array [lat, lng] => do
    let lat ← lat.number?
    let lng ← lng.number?
    return ⟨lat, lng⟩
  | _ => none

/-- A list of pairs of numbers. -/
def points? : Json → Option (List Point)
  | .array items => items.mapM point?
  | _ => none

end Json

namespace Frame

/-- A field that must be there. -/
def required (read : Json → Option α) (name : String) (members : List (String × Json)) :
    Option α :=
  (Json.lookup name members).bind read

/-- A field that may be left out or `null`. -/
def optionally (read : Json → Option α) (name : String) (members : List (String × Json)) :
    Option (Option α) :=
  match Json.lookup name members with
  | none => some none
  | some .null => some none
  | some value => (read value).map some

/-- A field that may be left out. -/
def defaulting (read : Json → Option α) (fallback : α) (name : String)
    (members : List (String × Json)) : Option α :=
  match Json.lookup name members with
  | none => some fallback
  | some value => read value

def pointFields (members : List (String × Json)) : Option Point := do
  let lat ← required Json.number? "lat" members
  let lng ← required Json.number? "lng" members
  return ⟨lat, lng⟩

/-- A destination is an object with both coordinates, or a pair. -/
def place? : Json → Option Point
  | .object members => pointFields members
  | value => value.point?

def positionPayload (members : List (String × Json)) : Option Frame := do
  let point ← pointFields members
  let status ← optionally Json.text? "status" members
  return .position ⟨point, status, (Json.lookup "ts" members).bind Timestamp.ofJson?⟩

def errorPayload (members : List (String × Json)) : Option Frame := do
  let error ← optionally Json.text? "error" members
  let message ← optionally Json.text? "message" members
  let code ← optionally some "code" members
  return .error ⟨error, message, code⟩

def routePayload (members : List (String × Json)) : Option Frame := do
  let points ← defaulting Json.points? [] "coords" members
  let distance ← optionally Json.number? "distance_km" members
  let duration ← optionally Json.number? "duration_min" members
  return .route ⟨points, distance, duration⟩

def initPayload (members : List (String × Json)) : Option Frame := do
  let destination ← optionally place? "destination" members
  let status ← optionally Json.text? "status" members
  return .init ⟨destination, status⟩

def tickPayload (members : List (String × Json)) : Option Frame := do
  let point ← pointFields members
  let status ← optionally Json.text? "status" members
  let progress ← optionally Json.number? "progress" members
  return .tick ⟨point, status, progress⟩

def completePayload (members : List (String × Json)) : Option Frame := do
  let lat ← optionally Json.number? "lat" members
  let lng ← optionally Json.number? "lng" members
  let status ← optionally Json.text? "status" members
  return .complete ⟨lat, lng, status⟩

/-- Reads the fields of a frame of the given type. -/
def ofPayload? (kind : String) (members : List (String × Json)) : Option Frame :=
  match kind with
  | "position_update" => positionPayload members
  | "status" => (required Json.text? "status" members).map .status
  | "status_update" => (required Json.text? "status" members).map .statusUpdate
  | "error" => errorPayload members
  | "hello" => some .hello
  | "probe_ack" => some .probeAck
  | "route" => routePayload members
  | "init" => initPayload members
  | "tick" => tickPayload members
  | "complete" => completePayload members
  | kind => some (.unknown kind)

def ofJson : Json → Except FrameError Frame
  | .object members =>
    match Json.lookup "type" members with
    | some (.text kind) =>
      match ofPayload? kind members with
      | some frame => .ok frame
      | none => .error (.invalidPayload kind)
    | _ => .error .missingType
  | _ => .error .notAnObject

def decode (text : String) : Except FrameError Frame :=
  match Json.parse? text with
  | none => .error .malformed
  | some value => ofJson value

end Frame

end CourierTrack
