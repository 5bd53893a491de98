import CourierTrack.Json.Basic
import CourierTrack.Time.Instant
/-!
The time that a frame may carry: epoch milliseconds or a date text. It is advisory; a shape that
cannot be read counts as no time.
-/

namespace CourierTrack

open Time

inductive Timestamp where
  | millis (value : Int64)
  | text (value : String)
  deriving Repr, DecidableEq

namespace Timestamp

/-- A whole number of milliseconds, cut off at the ends of the range. -/
def clampMillis (n : Int) : Int64 :=
  if n < Int64.minValue.toInt then Int64.minValue
  else if Int64.maxValue.toInt < n then Int64.maxValue
  else Int64.ofInt n

/-- Reads a time from any JSON value; a float is cut to whole milliseconds. -/
def ofJson? : Json → Option Timestamp
  | .integer n => some (.millis (clampMillis n.value))
  | .float x => if x.isFinite then some (.millis x.toInt64) else none
  | .text s => some (.text s)
  | _ => none

/-- The instant meant, if it can be written as a date. -/
def instant? : Timestamp → Option Instant
  | .millis ms => Instant.ofMillis? ms.toInt
  | .text s => Instant.ofText? s

def ofInstant (i : Instant) : Timestamp := .millis (clampMillis i.millis)

theorem int64_bounds (n : Int64) : -0x8000000000000000 ≤ n.toInt ∧ n.toInt < 0x10000000000000000 :=
  ⟨Int64.le_toInt n, Int.lt_trans (Int64.toInt_lt n) (by decide)⟩

def toJson : Timestamp → Json
  | .millis ms => .integer ⟨ms.toInt, (int64_bounds ms).1, (int64_bounds ms).2⟩
  | .text s => .text s

end Timestamp

end CourierTrack
