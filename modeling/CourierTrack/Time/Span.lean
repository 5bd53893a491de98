import CourierTrack.Decimal.Layout
/-!
Lengths of time. Spans and clock readings are counted in whole nanoseconds.
-/

namespace CourierTrack.Time

abbrev Span := Nat

/-- A clock reading: the span since the clock started. -/
abbrev Reading := Nat

namespace Span

def micros (n : Nat) : Span := n * 1000

def millis (n : Nat) : Span := n * 1000000

def seconds (n : Nat) : Span := n * 1000000000

/-- Whole milliseconds, rounded down. -/
def toMillis (s : Span) : Nat := s / 1000000

/-- The longest span: the largest count of seconds in a 64-bit word, and all but a nanosecond. -/
def longest : Span := seconds 0x10000000000000000 - 1

@[simp]
theorem toMillis_millis (n : Nat) : toMillis (millis n) = n := by
  simp [toMillis, millis]

/-- A count of units with its fraction, without zeros at the end. -/
def inUnit (s unit : Nat) (places : Nat) (name : String) : String :=
  let fraction := s % unit
  if fraction = 0 then toString (s / unit) ++ name
  else
    let digits := Nat.toDigits 10 fraction
    let padded := Decimal.zeros (places - digits.length) ++ digits
    let kept := (padded.reverse.dropWhile (· = '0')).reverse
    toString (s / unit) ++ "." ++ String.ofList kept ++ name

/-- The text of a span in the largest unit of which it holds one. -/
def display (s : Span) : String :=
  if seconds 1 ≤ s then inUnit s (seconds 1) 9 "s"
  else if millis 1 ≤ s then inUnit s (millis 1) 6 "ms"
  else if micros 1 ≤ s then inUnit s (micros 1) 3 "µs"
  else toString s ++ "ns"

end Span

end CourierTrack.Time
