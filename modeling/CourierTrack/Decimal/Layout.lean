import CourierTrack.Decimal.Shortest
/-!
How the digits of a float are written: in frames, in plain text, and with a fixed count of places.
-/

namespace CourierTrack.Decimal

/-- The decisions of one way of writing floats. -/
structure Layout where
  /-- First-digit exponents that are written without an exponent mark; `none` means all. -/
  positional : Option (Int × Int)
  /-- Whether a whole number keeps `.0`. -/
  wholePoint : Bool
  /-- Which of two equally near shortest forms is taken. -/
  tie : Tie
  deriving Repr, DecidableEq

/-- Frames: an exponent mark from `1e+16` up and below `1e-5`, and whole numbers keep `.0`. -/
def Layout.wire : Layout := ⟨some (-5, 15), true, .toEven⟩

/-- Messages and settings: no exponent mark, and whole numbers without a point. -/
def Layout.plain : Layout := ⟨none, false, .up⟩

def digitText (n : Nat) : List Char := Nat.toDigits 10 n

def zeros (n : Nat) : List Char := List.replicate n '0'

/-- The digits with a point after `places` digits from the right. -/
def pointed (digits : List Char) (places : Nat) : List Char :=
  let padded := zeros (places + 1 - digits.length) ++ digits
  padded.take (padded.length - places) ++ '.' :: padded.drop (padded.length - places)

/-- The digits at their place, without an exponent mark. -/
def Layout.positionalText (l : Layout) (s : Scientific) : List Char :=
  if s.exponent < 0 then pointed (digitText s.digits) s.exponent.natAbs
  else
    let whole := digitText s.digits ++ (if s.digits = 0 then [] else zeros s.exponent.toNat)
    if l.wholePoint then whole ++ ['.', '0'] else whole

/-- One digit before the point, and the exponent with its sign. -/
def markedText (s : Scientific) : List Char :=
  let digits := digitText s.digits
  let mantissa := match digits with
    | [] => []
    | [d] => [d]
    | d :: rest => d :: '.' :: rest
  let sign := if s.leading < 0 then '-' else '+'
  mantissa ++ 'e' :: sign :: digitText s.leading.natAbs

def Layout.inRange (l : Layout) (leading : Int) : Bool :=
  match l.positional with
  | none => true
  | some (low, high) => low ≤ leading && leading ≤ high

def Layout.digits (l : Layout) (s : Scientific) : List Char :=
  if s.digits = 0 || l.inRange s.leading then l.positionalText s else markedText s

def signText (x : Float) : List Char :=
  if isNegative x then ['-'] else []

/-- The text of a float; the sign of zero is kept. -/
def Layout.format (l : Layout) (x : Float) : String :=
  match magnitude x with
  | .nan => "NaN"
  | .infinite => String.ofList (signText x ++ ['i', 'n', 'f'])
  | .finite b => String.ofList (signText x ++ l.digits (b.shortest l.tie))

/-- A finite number rounded to `places` decimals; an exact half goes to the even neighbour. -/
def Binary.fixedText (places : Nat) (b : Binary) : List Char :=
  let r := b.ratio
  let units := roundDiv .toEven (r.1 * Nat.pow 10 places) r.2
  if places = 0 then digitText units else pointed (digitText units) places

/-- The text of a float with a fixed count of decimals. -/
def fixed (places : Nat) (x : Float) : String :=
  match magnitude x with
  | .nan => "NaN"
  | .infinite => String.ofList (signText x ++ ['i', 'n', 'f'])
  | .finite b => String.ofList (signText x ++ b.fixedText places)

end CourierTrack.Decimal
