import CourierTrack.Decimal.Literal
import CourierTrack.Json.Basic
/-!
Reading JSON text strictly: no comments, no trailing commas, no lone surrogates, no number beyond
the floats, and at most `maxDepth` containers inside each other.
-/

namespace CourierTrack.Json

/-- How many containers may be open at once. -/
def maxDepth : Nat := 127

def isSpace (c : Char) : Bool := c = ' ' || c = '\n' || c = '\t' || c = '\r'

def skipSpace (cs : List Char) : List Char := cs.dropWhile isSpace

def hexValue? (c : Char) : Option Nat :=
  if c.isDigit then some (c.toNat - '0'.toNat)
  else if 'a' ≤ c ∧ c ≤ 'f' then some (c.toNat - 'a'.toNat + 10)
  else if 'A' ≤ c ∧ c ≤ 'F' then some (c.toNat - 'A'.toNat + 10)
  else none

def unit? (a b c d : Char) : Option Nat := do
  let a ← hexValue? a
  let b ← hexValue? b
  let c ← hexValue? c
  let d ← hexValue? d
  return ((a * 16 + b) * 16 + c) * 16 + d

def isHighSurrogate (n : Nat) : Bool := 0xD800 ≤ n && n ≤ 0xDBFF

def isLowSurrogate (n : Nat) : Bool := 0xDC00 ≤ n && n ≤ 0xDFFF

def paired (high low : Nat) : Char :=
  Char.ofNat (0x10000 + (high - 0xD800) * 0x400 + (low - 0xDC00))

/-- The character that a one-letter escape stands for. -/
def unescape? : Char → Option Char
  | '"' => some '"'
  | '\\' => some '\\'
  | '/' => some '/'
  | 'b' => some '\x08'
  | 'f' => some '\x0c'
  | 'n' => some '\n'
  | 'r' => some '\r'
  | 't' => some '\t'
  | _ => none

/-- The characters up to the closing quote, and what follows it. -/
def stringBody : List Char → Option (List Char × List Char)
  | [] => none
  | '"' :: rest => some ([], rest)
  | '\\' :: 'u' :: a :: b :: c :: d :: rest =>
    match unit? a b c d with
    | none => none
    | some n =>
      if isLowSurrogate n then none
      else if isHighSurrogate n then
        match rest with
        | '\\' :: 'u' :: e :: f :: g :: h :: rest =>
          match unit? e f g h with
          | none => none
          | some low =>
            if isLowSurrogate low then (stringBody rest).map fun r => (paired n low :: r.1, r.2)
            else none
        | _ => none
      else (stringBody rest).map fun r => (Char.ofNat n :: r.1, r.2)
  | '\\' :: c :: rest =>
    match unescape? c with
    | none => none
    | some plain => (stringBody rest).map fun r => (plain :: r.1, r.2)
  | c :: rest =>
    if c.toNat < 0x20 || c = '\\' then none
    else (stringBody rest).map fun r => (c :: r.1, r.2)

/-- A whole number in range stays one, except `-0`; any other number is a float. -/
def wholeNumber (negative : Bool) (digits : List Char) : Option Json :=
  let n : Int := Decimal.digitsValue digits
  let signed := if negative then -n else n
  match WireInteger.ofInt? signed with
  | some i => if negative && n == 0 then some (.float (-0.0)) else some (.integer i)
  | none => finite (Decimal.ofParts negative digits [] 0)
where
  finite (x : Float) : Option Json := if x.isFinite then some (.float x) else none

/-- The digits before the point: no leading zero. -/
def wholeDigits? (cs : List Char) : Option (List Char × List Char) :=
  match Decimal.splitDigits cs with
  | ([], _) => none
  | ('0' :: _ :: _, _) => none
  | (digits, rest) => some (digits, rest)

/-- A point with its digits, if there is one. -/
def fraction? : List Char → Option (Option (List Char) × List Char)
  | '.' :: rest =>
    match Decimal.splitDigits rest with
    | ([], _) => none
    | (digits, rest) => some (some digits, rest)
  | rest => some (none, rest)

/-- An exponent mark with its digits, if there is one. -/
def scale? : List Char → Option (Option Int × List Char)
  | [] => some (none, [])
  | c :: rest =>
    if c = 'e' || c = 'E' then
      let (negative, rest) := Decimal.splitSign rest
      match Decimal.splitDigits rest with
      | ([], _) => none
      | (digits, rest) =>
        let n : Int := Decimal.digitsValue digits
        some (some (if negative then -n else n), rest)
    else some (none, c :: rest)

/-- A number without its sign. -/
def number (negative : Bool) (cs : List Char) : Option (Json × List Char) := do
  let (whole, rest) ← wholeDigits? cs
  let (fraction, rest) ← fraction? rest
  let (scale, rest) ← scale? rest
  if fraction.isNone && scale.isNone then
    return (← wholeNumber negative whole, rest)
  else
    let x := Decimal.ofParts negative whole (fraction.getD []) (scale.getD 0)
    if x.isFinite then return (.float x, rest) else none

/-- Items up to the closing bracket, each read by `read`. -/
def items (read : List Char → Option (Json × List Char)) :
    Nat → List Char → Option (List Json × List Char)
  | 0, _ => none
  | steps + 1, cs => do
    let (item, rest) ← read cs
    match skipSpace rest with
    | ']' :: rest => return ([item], rest)
    | ',' :: rest =>
      let (more, rest) ← items read steps rest
      return (item :: more, rest)
    | _ => none

/-- One name with its value, read by `read`. -/
def member (read : List Char → Option (Json × List Char)) (cs : List Char) :
    Option ((String × Json) × List Char) := do
  match skipSpace cs with
  | '"' :: rest =>
    let (name, rest) ← stringBody rest
    match skipSpace rest with
    | ':' :: rest =>
      let (value, rest) ← read rest
      return ((String.ofList name, value), rest)
    | _ => none
  | _ => none

/-- Members up to the closing brace, in the order they are written. -/
def members (read : List Char → Option (Json × List Char)) :
    Nat → List Char → Option (List (String × Json) × List Char)
  | 0, _ => none
  | steps + 1, cs => do
    let (first, rest) ← member read cs
    match skipSpace rest with
    | '\x7d' :: rest => return ([first], rest)
    | ',' :: rest =>
      let (more, rest) ← members read steps rest
      return (first :: more, rest)
    | _ => none

def arrayBody (read : List Char → Option (Json × List Char)) (cs : List Char) :
    Option (List Json × List Char) :=
  match skipSpace cs with
  | ']' :: rest => some ([], rest)
  | rest => items read (rest.length + 1) rest

def objectBody (read : List Char → Option (Json × List Char)) (cs : List Char) :
    Option (List (String × Json) × List Char) :=
  match skipSpace cs with
  | '\x7d' :: rest => some ([], rest)
  | rest => members read (rest.length + 1) rest

/-- A value that is no container, or none. -/
def scalar : List Char → Option (Json × List Char)
  | 'n' :: 'u' :: 'l' :: 'l' :: rest => some (.null, rest)
  | 't' :: 'r' :: 'u' :: 'e' :: rest => some (.bool true, rest)
  | 'f' :: 'a' :: 'l' :: 's' :: 'e' :: rest => some (.bool false, rest)
  | '"' :: rest => (stringBody rest).map fun r => (.text (String.ofList r.1), r.2)
  | '-' :: rest => number true rest
  | rest => number false rest

/-- A value at the front of a text, with at most `depth` containers inside each other. -/
def value : Nat → List Char → Option (Json × List Char)
  | 0, cs => scalar (skipSpace cs)
  | depth + 1, cs =>
    match skipSpace cs with
    | '[' :: rest => (arrayBody (value depth) rest).map fun r => (.array r.1, r.2)
    | '\x7b' :: rest => (objectBody (value depth) rest).map fun r => (ofMembers r.1, r.2)
    | rest => scalar rest

/-- Reads a whole text as one value with at most `depth` containers inside each other. -/
def parseWithin? (depth : Nat) (s : String) : Option Json :=
  match value depth s.toList with
  | some (j, rest) => if (skipSpace rest).isEmpty then some j else none
  | none => none

def parse? (s : String) : Option Json := parseWithin? maxDepth s

end CourierTrack.Json
