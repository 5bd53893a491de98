import CourierTrack.Decimal.Literal
import CourierTrack.Time.Calendar
/-!
Points in time: reading and writing date texts, and epoch milliseconds.
-/

namespace CourierTrack.Time

/-- Whole seconds from the epoch and nanoseconds after them; a leap second has a billion and more. -/
structure Instant where
  seconds : Int
  nanos : Nat
  deriving Repr, DecidableEq

namespace Instant

def epoch : Instant := ⟨0, 0⟩

/-- The first and last millisecond of the years that can be written. -/
def minMillis : Int := -8334601228800000

def maxMillis : Int := 8210266876799999

/-- The instant `ms` milliseconds after the epoch, if its year can be written. -/
def ofMillis? (ms : Int) : Option Instant :=
  if minMillis ≤ ms ∧ ms ≤ maxMillis then some ⟨ms / 1000, (ms % 1000).toNat * 1000000⟩ else none

/-- Milliseconds from the epoch, rounded down. -/
def millis (i : Instant) : Int := i.seconds * 1000 + (i.nanos / 1000000 : Nat)

/-- Reads exactly `count` digits. -/
def digits? (count : Nat) (cs : List Char) : Option (Nat × List Char) :=
  let front := cs.take count
  if front.length = count ∧ front.all Char.isDigit then
    some (Decimal.digitsValue front, cs.drop count)
  else none

def expect? (c : Char) : List Char → Option (List Char)
  | d :: rest => if c = d then some rest else none
  | [] => none

/-- Nanoseconds from the digits after a point; digits after the ninth are dropped. -/
def nanosOf (digits : List Char) : Nat :=
  let kept := digits.take 9
  Decimal.digitsValue kept * Nat.pow 10 (9 - kept.length)

def fraction? : List Char → Option (Nat × List Char)
  | '.' :: rest =>
    match Decimal.splitDigits rest with
    | ([], _) => none
    | (digits, rest) => some (nanosOf digits, rest)
  | rest => some (0, rest)

/-- The distance from universal time in seconds, east positive: `Z`, or a sign with hours and
minutes. -/
def offset? : List Char → Option (Int × List Char)
  | [] => none
  | sign :: rest =>
    if sign = 'Z' ∨ sign = 'z' then some (0, rest)
    else if sign = '+' ∨ sign = '-' ∨ sign = '−' then do
      let (hours, rest) ← digits? 2 rest
      let rest ← expect? ':' rest
      let (minutes, rest) ← digits? 2 rest
      if hours ≤ 23 ∧ minutes ≤ 59 then
        let seconds : Int := (hours * 3600 + minutes * 60 : Nat)
        return (if sign = '+' then seconds else -seconds, rest)
      else none
    else none

/-- A time of day as seconds from midnight and nanoseconds; second 60 is a leap second. -/
def timeOfDay? (hour minute second nanos : Nat) : Option (Nat × Nat) :=
  if hour ≤ 23 ∧ minute ≤ 59 ∧ second ≤ 60 then
    let (second, nanos) := if second = 60 then (59, nanos + 1000000000) else (second, nanos)
    some (hour * 3600 + minute * 60 + second, nanos)
  else none

/-- Reads a date text such as `2024-05-01T10:00:00.5+03:00`. -/
def ofText? (s : String) : Option Instant := do
  let (year, rest) ← digits? 4 s.toList
  let rest ← expect? '-' rest
  let (month, rest) ← digits? 2 rest
  let rest ← expect? '-' rest
  let (day, rest) ← digits? 2 rest
  let date : Date := ⟨year, month, day⟩
  let rest ← match rest with
    | c :: rest => if c = 'T' ∨ c = 't' ∨ c = ' ' then some rest else none
    | [] => none
  let (hour, rest) ← digits? 2 rest
  let rest ← expect? ':' rest
  let (minute, rest) ← digits? 2 rest
  let rest ← expect? ':' rest
  let (second, rest) ← digits? 2 rest
  let (nanos, rest) ← fraction? rest
  let (offset, rest) ← offset? rest
  let (secondOfDay, nanos) ← timeOfDay? hour minute second nanos
  if date.isValid ∧ rest.isEmpty then
    return ⟨date.toDays * 86400 + secondOfDay - offset, nanos⟩
  else none

def padded (width n : Nat) : String :=
  let digits := Nat.toDigits 10 n
  String.ofList (List.replicate (width - digits.length) '0' ++ digits)

/-- Years outside four digits carry a sign. -/
def yearText (year : Int) : String :=
  if 0 ≤ year ∧ year ≤ 9999 then padded 4 year.toNat
  else (if year < 0 then "-" else "+") ++ padded 4 year.natAbs

/-- No, three, six or nine digits, as many as are needed. -/
def nanosText (nanos : Nat) : String :=
  if nanos = 0 then ""
  else if nanos % 1000000 = 0 then "." ++ padded 3 (nanos / 1000000)
  else if nanos % 1000 = 0 then "." ++ padded 6 (nanos / 1000)
  else "." ++ padded 9 nanos

def toText (i : Instant) : String :=
  let date := Date.ofDays (i.seconds / 86400)
  let secondOfDay := (i.seconds % 86400).toNat
  let leap := 1000000000 ≤ i.nanos
  let second := secondOfDay % 60 + (if leap then 1 else 0)
  let nanos := if leap then i.nanos - 1000000000 else i.nanos
  yearText date.year ++ "-" ++ padded 2 date.month ++ "-" ++ padded 2 date.day ++ "T"
    ++ padded 2 (secondOfDay / 3600) ++ ":" ++ padded 2 (secondOfDay / 60 % 60) ++ ":"
    ++ padded 2 second ++ nanosText nanos ++ "+00:00"

end Instant

end CourierTrack.Time
