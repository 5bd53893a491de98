import CourierTrack.Decimal.Literal
import CourierTrack.Geo.Sample
import CourierTrack.Text.Blank
/-!
Fixes written one per line as `lat,lng` or `lat,lng,accuracy`.
-/

namespace CourierTrack.Source

open Time

inductive LineError where
  | fieldCount (count : Nat)
  | notANumber (field : String) (value : String)
  | geo (error : GeoError)
  deriving Repr, DecidableEq

def LineError.message : LineError → String
  | .fieldCount count =>
    "Expected 'lat,lng[,accuracy]', got " ++ toString count ++ " field(s)"
  | .notANumber field value => "Field '" ++ field ++ "' is not a number: '" ++ value ++ "'"
  | .geo error => error.message

def number (field : String) (text : List Char) : Except LineError Float :=
  match Decimal.float? text with
  | some x => .ok x
  | none => .error (.notANumber field (String.ofList text))

/-- An empty third field counts as none. -/
def accuracy : Option (List Char) → Except LineError (Option Float)
  | none => .ok none
  | some [] => .ok none
  | some text => (number "accuracy" text).map some

def ofFields (lat lng : List Char) (third : Option (List Char)) (clock : Instant) :
    Except LineError Sample := do
  let lat ← number "lat" lat
  let lng ← number "lng" lng
  let accuracy ← accuracy third
  match Sample.checked lat lng accuracy clock with
  | .ok sample => .ok sample
  | .error e => .error (.geo e)

/-- The comma-separated fields of a line, trimmed. -/
def fields (line : List Char) : List (List Char) := (Text.splitAt ',' line).map Text.trim

def parseLine (line : List Char) (clock : Instant) : Except LineError Sample :=
  match fields line with
  | [lat, lng] => ofFields lat lng none clock
  | [lat, lng, third] => ofFields lat lng (some third) clock
  | other => .error (.fieldCount other.length)

def parsePoint (line : List Char) : Except LineError Point :=
  (parseLine line .epoch).map Sample.point

/-- A line is passed over when it is blank or starts with `#`. -/
def isComment (line : List Char) : Bool :=
  match Text.trim line with
  | [] => true
  | '#' :: _ => true
  | _ => false

/-- The fix on a line, if there is one. -/
def sample? (clock : Instant) (line : List Char) : Option Sample :=
  if isComment line then none else (parseLine (Text.trim line) clock).toOption

/-- Cuts bytes after every line feed; the last piece may lack one, and is left out if empty. -/
def byteLines : List UInt8 → List (List UInt8)
  | [] => []
  | b :: rest =>
    if b = 10 then [] :: byteLines rest
    else match byteLines rest with
      | [] => [[b]]
      | line :: lines => (b :: line) :: lines

/-- The characters of a line of bytes, if it is valid text. -/
def decodeLine? (bytes : List UInt8) : Option (List Char) :=
  (String.fromUTF8? ⟨bytes.toArray⟩).map String.toList

/-- The lines before the first one that is no valid text. -/
def textLines (bytes : List UInt8) : List (List Char) :=
  ((byteLines bytes).map decodeLine?).takeWhile Option.isSome |>.filterMap id

end CourierTrack.Source
