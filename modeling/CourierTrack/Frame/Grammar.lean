import CourierTrack.Frame.Basic
import Mathlib.Data.List.Forall2
/-!
The grammar of frames: the fields that each known type has, what they may be given as, and what
they hold then. Types that are unknown, and those that only show that the other side is there,
have no fields.
-/

namespace CourierTrack.Frame

/-- What a field may be given as. -/
inductive Shape where
  | number
  | text
  | optionalNumber
  | optionalText
  | points
  | optionalPlace
  | time
  | code
  deriving Repr, DecidableEq

def Shape.Value : Shape → Type
  | .number => Float
  | .text => String
  | .optionalNumber => Option Float
  | .optionalText => Option String
  | .points => List Point
  | .optionalPlace => Option Point
  | .time => Option Timestamp
  | .code => Option Json

structure Content where
  shape : Shape
  value : shape.Value

def fields : String → List (String × Shape)
  | "position_update" =>
    [("lat", .number), ("lng", .number), ("status", .optionalText), ("ts", .time)]
  | "status" => [("status", .text)]
  | "status_update" => [("status", .text)]
  | "error" => [("error", .optionalText), ("message", .optionalText), ("code", .code)]
  | "route" =>
    [("coords", .points), ("distance_km", .optionalNumber), ("duration_min", .optionalNumber)]
  | "init" => [("destination", .optionalPlace), ("status", .optionalText)]
  | "tick" =>
    [("lat", .number), ("lng", .number), ("status", .optionalText), ("progress", .optionalNumber)]
  | "complete" =>
    [("lat", .optionalNumber), ("lng", .optionalNumber), ("status", .optionalText)]
  | _ => []

/-- What the fields of a frame hold, in the order of `fields`. -/
def contents : Frame → List Content
  | .position u =>
    [⟨.number, u.point.lat⟩, ⟨.number, u.point.lng⟩, ⟨.optionalText, u.status⟩, ⟨.time, u.time⟩]
  | .status text => [⟨.text, text⟩]
  | .statusUpdate text => [⟨.text, text⟩]
  | .error r => [⟨.optionalText, r.error⟩, ⟨.optionalText, r.message⟩, ⟨.code, r.code⟩]
  | .route r =>
    [⟨.points, r.points⟩, ⟨.optionalNumber, r.distanceKm⟩, ⟨.optionalNumber, r.durationMin⟩]
  | .init i => [⟨.optionalPlace, i.destination⟩, ⟨.optionalText, i.status⟩]
  | .tick t =>
    [⟨.number, t.point.lat⟩, ⟨.number, t.point.lng⟩, ⟨.optionalText, t.status⟩,
      ⟨.optionalNumber, t.progress⟩]
  | .complete c =>
    [⟨.optionalNumber, c.lat⟩, ⟨.optionalNumber, c.lng⟩, ⟨.optionalText, c.status⟩]
  | .hello => []
  | .probeAck => []
  | .unknown _ => []

inductive IsNumber : Json → Float → Prop
  | integer (n : WireInteger) : IsNumber (.integer n) (Float.ofInt n.value)
  | float (x : Float) : IsNumber (.float x) x

inductive IsPair : Json → Point → Prop
  | pair {lat lng : Json} {x y : Float} (hlat : IsNumber lat x) (hlng : IsNumber lng y) :
      IsPair (.array [lat, lng]) ⟨x, y⟩

def HasNumber (members : List (String × Json)) (name : String) (x : Float) : Prop :=
  ∃ value, Json.lookup name members = some value ∧ IsNumber value x

/-- A place is an object with both coordinates, or a pair. -/
inductive IsPlace : Json → Point → Prop
  | object {members : List (String × Json)} {x y : Float} (hlat : HasNumber members "lat" x)
      (hlng : HasNumber members "lng" y) : IsPlace (.object members) ⟨x, y⟩
  | pair {value : Json} {p : Point} (h : IsPair value p) : IsPlace value p

/-- Whether a field is left out or `null`. -/
def IsBlank (given : Option Json) : Prop := given = none ∨ given = some .null

/-- Whether a field of a shape may be given as it is, and what it holds then. -/
inductive Holds : (s : Shape) → Option Json → s.Value → Prop
  | number {value : Json} {x : Float} (h : IsNumber value x) : Holds .number (some value) x
  | text (s : String) : Holds .text (some (.text s)) s
  | noNumber {given : Option Json} (h : IsBlank given) : Holds .optionalNumber given none
  | someNumber {value : Json} {x : Float} (h : IsNumber value x) :
      Holds .optionalNumber (some value) (some x)
  | noText {given : Option Json} (h : IsBlank given) : Holds .optionalText given none
  | someText (s : String) : Holds .optionalText (some (.text s)) (some s)
  | noPoints : Holds .points none []
  | somePoints {items : List Json} {points : List Point} (h : List.Forall₂ IsPair items points) :
      Holds .points (some (.array items)) points
  | noPlace {given : Option Json} (h : IsBlank given) : Holds .optionalPlace given none
  | somePlace {value : Json} {p : Point} (h : IsPlace value p) :
      Holds .optionalPlace (some value) (some p)
  | time (given : Option Json) : Holds .time given (given.bind Timestamp.ofJson?)
  | noCode {given : Option Json} (h : IsBlank given) : Holds .code given none
  | someCode {value : Json} (h : value ≠ .null) : Holds .code (some value) (some value)

def Shape.Admits (s : Shape) (given : Option Json) : Prop := ∃ value : s.Value, Holds s given value

end CourierTrack.Frame
