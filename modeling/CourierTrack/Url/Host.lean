import CourierTrack.Url.Domain
/-!
The host of an address: a domain name, four bytes, eight words, or any text in schemes that are not
the web's own.
-/

namespace CourierTrack

namespace Url

inductive Error where
  | noBase
  | emptyHost
  | badDomain
  | badDomainCharacter
  | badPort
  | badFourBytes
  | badEightWords
  deriving Repr, DecidableEq

def Error.message : Error → String
  | .noBase => "relative URL without a base"
  | .emptyHost => "empty host"
  | .badDomain => "invalid international domain name"
  | .badDomainCharacter => "invalid domain character"
  | .badPort => "invalid port number"
  | .badFourBytes => "invalid IPv4 address"
  | .badEightWords => "invalid IPv6 address"

inductive Host where
  | name (text : List Char)
  /-- Four bytes as one number. -/
  | fourBytes (value : Nat)
  | eightWords (words : List Nat)
  deriving Repr, DecidableEq

namespace Host

def isDigit (c : Char) : Bool := '0' ≤ c && c ≤ '9'

/-- A number in the base that it states: hexadecimal after `0x`, octal after `0`. `none` stands
for no number at all. -/
def number? (text : List Char) : Option Nat :=
  let read (base : Nat) (digits : List Char) : Option Nat :=
    digits.foldlM (fun n c => do
      let d ← Percent.hexValue? c
      if d < base then some (base * n + d) else none) 0
  match text with
  | [] => none
  | ['0'] => some 0
  | '0' :: 'x' :: digits => read 16 digits
  | '0' :: 'X' :: digits => read 16 digits
  | '0' :: digits => read 8 digits
  | digits => read 10 digits

/-- The pieces between dots; a dot at the end counts for nothing. -/
def dotted (text : List Char) : List (List Char) :=
  let pieces := Text.splitAt '.' text
  match pieces.getLast? with
  | some [] => if pieces.length = 1 then pieces else pieces.dropLast
  | _ => pieces

/-- Whether the last piece is a number, so that the host must be four bytes. -/
def endsInNumber (text : List Char) : Bool :=
  match (dotted text).getLast? with
  | none => false
  | some last => (!last.isEmpty && last.all isDigit) || (number? last).isSome

/-- Four bytes: the last number fills the bytes that the others leave. -/
def fourBytes? (text : List Char) : Option Nat := do
  let numbers ← (dotted text).mapM number?
  let last ← numbers.getLast?
  let front := numbers.dropLast
  if 4 < numbers.length || front.any (255 < ·) || Nat.pow 256 (4 - front.length) ≤ last then none
  else
    let high := front.foldl (fun n b => 256 * n + b) 0
    some (high * Nat.pow 256 (4 - front.length) + last)

/-- One to four hexadecimal digits. -/
def word? (text : List Char) : Option Nat :=
  if text.isEmpty || 4 < text.length then none
  else text.foldlM (fun n c => (Percent.hexValue? c).map (16 * n + ·)) 0

/-- A byte in decimal digits, without zeros in front. -/
def byte? (text : List Char) : Option Nat :=
  match text with
  | [] => none
  | '0' :: _ :: _ => none
  | digits =>
    if digits.all isDigit && digits.length ≤ 3 then
      let n := digits.foldl (fun n c => 10 * n + (c.toNat - 48)) 0
      if n ≤ 255 then some n else none
    else none

/-- Words in hexadecimal; the last piece may be four bytes, which are two words. -/
def words? : List (List Char) → Option (List Nat)
  | [] => some []
  | [last] =>
    if last.contains '.' then
      match (Text.splitAt '.' last).mapM byte? with
      | some [a, b, c, d] => some [256 * a + b, 256 * c + d]
      | _ => none
    else (word? last).map ([·])
  | piece :: rest => do
    let word ← word? piece
    let words ← words? rest
    return word :: words

/-- The pieces after a gap, which an empty piece shows. At the end of the text the gap shows as
two empty pieces. -/
def afterGap : List (List Char) → Option (List (List Char))
  | [] => none
  | [[]] => some []
  | pieces => some pieces

/-- Eight words between colons, of which two colons may stand for zeros. -/
def eightWords? (text : List Char) : Option (List Nat) := do
  let pieces := Text.splitAt ':' text
  let front := pieces.takeWhile fun p => !p.isEmpty
  match pieces.drop front.length with
  | [] =>
    let words ← words? pieces
    if words.length = 8 then some words else none
  | _ :: rest =>
    let rest ← if front.isEmpty then
        match rest with
        | [] :: rest => afterGap rest
        | _ => none
      else afterGap rest
    if front.any (·.contains '.') then none
    else
      let before ← words? front
      let after ← words? rest
      let count := before.length + after.length
      if count ≤ 7 then some (before ++ List.replicate (8 - count) 0 ++ after) else none

/-- The length of the run of zeros at the start. -/
def zeros (words : List Nat) : Nat := (words.takeWhile (· = 0)).length

/-- Where the longest run of zeros starts, and how long it is; the first one of equal runs. -/
def longestRun : Nat → List Nat → Nat × Nat
  | start, [] => (start, 0)
  | start, word :: rest =>
    let later := longestRun (start + 1) rest
    let here := zeros (word :: rest)
    if later.2 ≤ here then (start, here) else later

def colons (words : List Nat) : List Char :=
  ((words.map fun w => Nat.toDigits 16 w).intersperse [':']).flatten

/-- Words in hexadecimal; the longest run of two or more zeros is left out. -/
def wordsText (words : List Nat) : List Char :=
  let (start, length) := longestRun 0 words
  if length < 2 then colons words
  else colons (words.take start) ++ "::".toList ++ colons (words.drop (start + length))

def fourBytesText (n : Nat) : List Char :=
  let byte (k : Nat) : List Char := Nat.toDigits 10 (n / Nat.pow 256 k % 256)
  byte 3 ++ '.' :: byte 2 ++ '.' :: byte 1 ++ '.' :: byte 0

def text : Host → List Char
  | .name text => text
  | .fourBytes n => fourBytesText n
  | .eightWords words => '[' :: wordsText words ++ [']']

def isEmpty : Host → Bool
  | .name [] => true
  | _ => false

def bracketed (rest : List Char) : Except Error Host :=
  match rest.getLast? with
  | some ']' =>
    match eightWords? rest.dropLast with
    | some words => .ok (.eightWords words)
    | none => .error .badEightWords
  | _ => .error .badEightWords

/-- The host of one of the web's own schemes. -/
def ofText : List Char → Except Error Host
  | '[' :: rest => bracketed rest
  | text =>
    match Domain.ofText? text with
    | none => .error .badDomain
    | some [] => .error .emptyHost
    | some domain =>
      if endsInNumber domain then
        match fourBytes? domain with
        | some n => .ok (.fourBytes n)
        | none => .error .badFourBytes
      else .ok (.name domain)

def isForbidden (c : Char) : Bool := c.toNat == 0 || " \t\n\r#/:<>?@[\\]^|".contains c

/-- The host of any other scheme. -/
def ofOpaque : List Char → Except Error Host
  | '[' :: rest => bracketed rest
  | text =>
    if text.any isForbidden then .error .badDomainCharacter
    else .ok (.name (Percent.encode Percent.control text))

end Host

end Url

end CourierTrack
