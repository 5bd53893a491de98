import CourierTrack.Decimal.Binary
import CourierTrack.Decimal.Rounding
/-!
The fewest decimal digits that read back as the same float.

The reals that round to a float form an interval around it, ends included when the mantissa is
even. For one digit, two digits and so on the two neighbours of the float on that decimal grid are
tried; the first grid with a neighbour in the interval is taken, and of two neighbours the nearer.
-/

namespace CourierTrack.Decimal

/-- The number `digits * 10 ^ exponent`. -/
structure Scientific where
  digits : Nat
  exponent : Int
  deriving Repr, DecidableEq

def maxDigits : Nat := 17

/-- The exponent of the first digit is one less than the place of the first digit. -/
def Scientific.leading (s : Scientific) : Int :=
  s.exponent + ((Nat.toDigits 10 s.digits).length : Int) - 1

/-- `num / den` in units of `10 ^ grid`, again as a quotient. -/
def inUnits (grid : Int) (num den : Nat) : Nat × Nat :=
  if grid < 0 then (num * Nat.pow 10 grid.natAbs, den) else (num, den * Nat.pow 10 grid.toNat)

/-- The reals that round to `b`, as quotients over one denominator: low end, value, high end. -/
structure Interval where
  low : Nat
  value : Nat
  high : Nat
  denominator : Nat
  closed : Bool
  deriving Repr, DecidableEq

/-- The gap below a power of two is half the gap above it, except at the bottom of the range. -/
def Binary.interval (b : Binary) : Interval :=
  let below := if b.mantissa = Nat.pow 2 52 ∧ b.exponent ≠ -1074 then 1 else 2
  let scale (n : Nat) : Nat × Nat := Binary.ratio ⟨n, b.exponent - 2⟩
  let low := scale (4 * b.mantissa - below)
  { low := low.1
    value := (scale (4 * b.mantissa)).1
    high := (scale (4 * b.mantissa + 2)).1
    denominator := low.2
    closed := b.mantissa % 2 == 0 }

/-- Whether `n` units of `10 ^ grid` round to the float. -/
def Interval.holds (i : Interval) (grid : Int) (n : Nat) : Bool :=
  let low := inUnits grid i.low i.denominator
  let high := inUnits grid i.high i.denominator
  if i.closed then low.1 ≤ n * low.2 && n * high.2 ≤ high.1
  else low.1 < n * low.2 && n * high.2 < high.1

/-- The neighbour of the value on the grid that rounds to it, the nearer one if both do. -/
def Interval.onGrid? (tie : Tie) (i : Interval) (grid : Int) : Option Nat :=
  let value := inUnits grid i.value i.denominator
  let floor := value.1 / value.2
  match i.holds grid floor, i.holds grid (floor + 1) with
  | true, true => some (roundDiv tie value.1 value.2)
  | true, false => some floor
  | false, true => some (floor + 1)
  | false, false => none

/-- Tries the grids from `grid` on, each ten times finer than the one before. -/
def Interval.firstGrid (tie : Tie) (i : Interval) (grid : Int) : Nat → Scientific
  | 0 => ⟨roundDiv tie (inUnits grid i.value i.denominator).1 (inUnits grid i.value i.denominator).2,
      grid⟩
  | tries + 1 =>
    match i.onGrid? tie grid with
    | some n => ⟨n, grid⟩
    | none => i.firstGrid tie (grid - 1) tries

/-- The decimal exponent of the first digit of `num / den`, counted down from `guess`. -/
def firstPlace (num den : Nat) (guess : Int) : Nat → Int
  | 0 => guess
  | tries + 1 =>
    let units := inUnits guess num den
    if units.2 ≤ units.1 then guess else firstPlace num den (guess - 1) tries

def Scientific.trim (s : Scientific) : Nat → Scientific
  | 0 => s
  | steps + 1 =>
    if s.digits % 10 = 0 ∧ s.digits ≠ 0 then
      Scientific.trim ⟨s.digits / 10, s.exponent + 1⟩ steps
    else s

/-- The fewest digits that read back as `b`, the nearest of those to it. -/
def Binary.shortest (tie : Tie) (b : Binary) : Scientific :=
  if b.mantissa = 0 then ⟨0, 0⟩
  else
    let i := b.interval
    let guess : Int := ((Nat.log2 b.mantissa : Int) + b.exponent + 1) * 30103 / 100000 + 1
    let place := firstPlace i.value i.denominator guess 4
    (i.firstGrid tie place maxDigits).trim maxDigits

end CourierTrack.Decimal
