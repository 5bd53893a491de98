/-!
A text beyond ASCII as letters, digits and hyphens: the ASCII characters stand first, and after a
hyphen follow the others as differences between code points and places, in digits of base 36 whose
weights adapt to the differences before.
-/

namespace CourierTrack.Url.Punycode

/-- The digits are the small letters and then `0` to `9`. -/
def digitChar (d : Nat) : Char :=
  if d < 26 then Char.ofNat (97 + d) else Char.ofNat (22 + d)

def digitValue? (c : Char) : Option Nat :=
  let n := c.toNat
  if 97 ≤ n && n ≤ 122 then some (n - 97)
  else if 65 ≤ n && n ≤ 90 then some (n - 65)
  else if 48 ≤ n && n ≤ 57 then some (n - 22)
  else none

/-- The least value of a digit at place `k` that is followed by another one. -/
def threshold (k bias : Nat) : Nat := max 1 (min 26 (k - bias))

theorem threshold_pos (k bias : Nat) : 1 ≤ threshold k bias := Nat.le_max_left _ _

theorem threshold_le (k bias : Nat) : threshold k bias ≤ 26 := by
  unfold threshold
  omega

def shrink (delta k : Nat) : Nat :=
  if 455 < delta then shrink (delta / 35) (k + 36) else k + 36 * delta / (delta + 38)
termination_by delta
decreasing_by exact Nat.div_lt_self (by omega) (by omega)

/-- The bias after a difference, with `count` characters placed. -/
def adapt (delta count : Nat) (first : Bool) : Nat :=
  let delta := if first then delta / 700 else delta / 2
  shrink (delta + delta / count) 0

def digits (bias k q : Nat) : List Char :=
  if q < threshold k bias then [digitChar q]
  else
    let t := threshold k bias
    digitChar (t + (q - t) % (36 - t)) :: digits bias (k + 36) ((q - t) / (36 - t))
termination_by q
decreasing_by
  have := threshold_pos k bias
  have := Nat.div_le_self (q - threshold k bias) (36 - threshold k bias)
  omega

structure Encoder where
  written : List Char := []
  delta : Nat := 0
  bias : Nat := 72
  /-- The characters placed so far. -/
  placed : Nat
  deriving Repr

/-- Passes one character of the text while those with code point `m` are placed. -/
def Encoder.pass (ascii m : Nat) (e : Encoder) (c : Char) : Encoder :=
  if c.toNat < m then { e with delta := e.delta + 1 }
  else if c.toNat = m then
    { written := e.written ++ digits e.bias 36 e.delta
      delta := 0
      bias := adapt e.delta (e.placed + 1) (e.placed = ascii)
      placed := e.placed + 1 }
  else e

/-- Places the characters of the code points given, which ascend from `next`. -/
def Encoder.place (text : List Char) (ascii : Nat) : List Nat → Nat → Encoder → Encoder
  | [], _, e => e
  | m :: rest, next, e =>
    let start := { e with delta := e.delta + (m - next) * (e.placed + 1) }
    let e := text.foldl (Encoder.pass ascii m) start
    place text ascii rest (m + 1) { e with delta := e.delta + 1 }

def insert (n : Nat) : List Nat → List Nat
  | [] => [n]
  | m :: rest => if n < m then n :: m :: rest else if n = m then m :: rest else m :: insert n rest

def isAscii (c : Char) : Bool := c.toNat < 128

/-- The code points beyond ASCII, ascending and each once. -/
def points (text : List Char) : List Nat :=
  text.foldr (fun c ns => if isAscii c then ns else insert c.toNat ns) []

def encode (text : List Char) : List Char :=
  let ascii := text.filter isAscii
  let mark := if ascii.isEmpty then [] else ['-']
  let e : Encoder := { placed := ascii.length }
  ascii ++ mark ++ (e.place text ascii.length (points text) 128).written

structure Decoder where
  text : List Char
  point : Nat := 128
  index : Nat := 0
  bias : Nat := 72
  /-- The index before the difference that is being read. -/
  before : Nat := 0
  weight : Nat := 1
  place : Nat := 36
  deriving Repr

def Decoder.read (d : Decoder) (c : Char) : Option Decoder := do
  let digit ← digitValue? c
  let index := d.index + digit * d.weight
  let t := threshold d.place d.bias
  if digit < t then
    let count := d.text.length + 1
    let point := d.point + index / count
    if point < 0x110000 && !(0xD800 ≤ point && point ≤ 0xDFFF) then
      some { text := d.text.insertIdx (index % count) (Char.ofNat point)
             point
             index := index % count + 1
             bias := adapt (index - d.before) count (d.before = 0)
             before := index % count + 1 }
    else none
  else some { d with index, weight := d.weight * (36 - t), place := d.place + 36 }

/-- Reads the digits one after the other; the last difference must be complete. -/
def Decoder.readAll : List Char → Decoder → Option (List Char)
  | [], d => if d.place = 36 then some d.text else none
  | c :: rest, d => (d.read c).bind (readAll rest)

/-- The ASCII characters and the digits, cut at the last hyphen. -/
def split (text : List Char) : List Char × List Char :=
  let digits := (text.reverse.takeWhile (· ≠ '-')).reverse
  let ascii := text.take (text.length - digits.length)
  (ascii.dropLast, digits)

def decode? (text : List Char) : Option (List Char) :=
  let (ascii, digits) := split text
  if ascii.all isAscii then Decoder.readAll digits { text := ascii } else none

end CourierTrack.Url.Punycode
