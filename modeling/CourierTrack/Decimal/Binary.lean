/-!
Floats taken apart: a finite float is a signed whole number times a power of two.
-/

namespace CourierTrack.Decimal

/-- The number `mantissa * 2 ^ exponent`. -/
structure Binary where
  mantissa : Nat
  exponent : Int
  deriving Repr, DecidableEq

/-- What a float is, apart from its sign. -/
inductive Magnitude where
  | nan
  | infinite
  | finite (value : Binary)
  deriving Repr, DecidableEq

/-- The largest exponent field marks infinities and what is not a number. -/
def reservedExponent : Nat := 2047

/-- Splits a word into sign, exponent field and fraction field. -/
def fields (word : Nat) : Bool × Nat × Nat :=
  (word / Nat.pow 2 63 == 1, word / Nat.pow 2 52 % Nat.pow 2 11, word % Nat.pow 2 52)

/-- Reads the exponent and fraction fields of a float. -/
def Magnitude.ofFields (exponent fraction : Nat) : Magnitude :=
  if exponent = reservedExponent then
    if fraction = 0 then .infinite else .nan
  else if exponent = 0 then .finite ⟨fraction, -1074⟩
  else .finite ⟨Nat.pow 2 52 + fraction, (exponent : Int) - 1075⟩

/-- Whether the sign bit of a float is set, also for `-0.0`. -/
def isNegative (x : Float) : Bool :=
  (fields x.toBits.toNat).1

/-- The magnitude of a float, exactly. -/
def magnitude (x : Float) : Magnitude :=
  let f := fields x.toBits.toNat
  .ofFields f.2.1 f.2.2

def Binary.ratio (b : Binary) : Nat × Nat :=
  if b.exponent < 0 then (b.mantissa, Nat.pow 2 b.exponent.natAbs)
  else (b.mantissa * Nat.pow 2 b.exponent.toNat, 1)

end CourierTrack.Decimal
