/-!
Reading decimal numbers into floats.
-/

namespace CourierTrack.Decimal

def digitsValue (digits : List Char) : Nat :=
  digits.foldl (fun n d => n * 10 + (d.toNat - '0'.toNat)) 0

/-- `digits * 10 ^ exponent` rounded to a float; far beyond the range no power is computed. -/
def toFloat (digits : Nat) (exponent : Int) : Float :=
  if digits = 0 then 0.0
  else
    let leading := ((Nat.log2 digits : Int) * 30103 / 100000) + exponent
    if 310 < leading then Float.ofScientific 1 false 400
    else if leading < -400 then 0.0
    else Float.ofScientific digits (exponent < 0) exponent.natAbs

def signed (negative : Bool) (x : Float) : Float :=
  if negative then -x else x

/-- The float nearest to `whole.fraction * 10 ^ exponent`. -/
def ofParts (negative : Bool) (whole fraction : List Char) (exponent : Int) : Float :=
  signed negative (toFloat (digitsValue (whole ++ fraction)) (exponent - fraction.length))

def splitSign : List Char → Bool × List Char
  | '-' :: rest => (true, rest)
  | '+' :: rest => (false, rest)
  | rest => (false, rest)

def splitDigits (cs : List Char) : List Char × List Char :=
  (cs.takeWhile Char.isDigit, cs.dropWhile Char.isDigit)

theorem splitDigits_append (cs : List Char) : (splitDigits cs).1 ++ (splitDigits cs).2 = cs :=
  List.takeWhile_append_dropWhile

/-- The exponent part of a number that ends with it; none is zero. -/
def exponent? : List Char → Option Int
  | [] => some 0
  | mark :: rest =>
    if mark = 'e' ∨ mark = 'E' then
      let (negative, digits) := splitSign rest
      if digits.isEmpty || !digits.all Char.isDigit then none
      else some (if negative then -(digitsValue digits : Int) else digitsValue digits)
    else none

/-- The names of what is not a finite number, in any case. -/
def named? (cs : List Char) : Option Float :=
  match String.ofList (cs.map Char.toLower) with
  | "inf" => some (Float.ofScientific 1 false 400)
  | "infinity" => some (Float.ofScientific 1 false 400)
  | "nan" => some (0.0 / 0.0)
  | _ => none

/-- Digits with at most one point and at least one digit, then perhaps an exponent. -/
def unsigned? (negative : Bool) (cs : List Char) : Option Float :=
  let (whole, rest) := splitDigits cs
  let (fraction, rest) := match rest with
    | '.' :: more => splitDigits more
    | rest => ([], rest)
  if whole.isEmpty && fraction.isEmpty then none
  else (exponent? rest).map (ofParts negative whole fraction)

/-- Reads a whole text as a float: a sign, then a number or a name; no blanks. -/
def float? (cs : List Char) : Option Float :=
  let (negative, rest) := splitSign cs
  match named? rest with
  | some x => some (signed negative x)
  | none => unsigned? negative rest

/-- Reads a whole text as a whole number below `2 ^ bits`; a plus sign may stand before it. -/
def natural? (bits : Nat) (cs : List Char) : Option Nat :=
  let digits := match cs with
    | '+' :: rest => rest
    | cs => cs
  if digits.isEmpty || !digits.all Char.isDigit then none
  else
    let n := digitsValue digits
    if n < Nat.pow 2 bits then some n else none

end CourierTrack.Decimal
