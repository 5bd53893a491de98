import CourierTrack.Text.Direction
import CourierTrack.Text.Joining
import CourierTrack.Url.Mapping
import CourierTrack.Url.Punycode
/-!
The labels of a domain name: what a label shows, how it is written in ASCII, and which labels there
may be.
-/

namespace CourierTrack.Url

open Text

/-- What a label shows, and how it is written. -/
structure Label where
  shown : List Char
  written : List Char
  deriving Repr, DecidableEq

namespace Label

def isForbidden (c : Char) : Bool := c.toNat ≤ 0x20 || c.toNat == 0x7F || "%#/:<>?@[\\]^|".contains c

def startsWithMark : List Char → Bool
  | [] => false
  | c :: _ => isMark c

/-- Characters that show nothing, and make the letters around them join or stand apart. -/
def isJoiner (c : Char) : Bool := c.toNat == 0x200C || c.toNat == 0x200D

/-- Whether a joiner changes how the text shows: after a virama, or, if it keeps letters apart,
between letters that would join. The text before it is reversed. -/
def joinerShows (c : Char) (before after : List Char) : Bool :=
  match before with
  | [] => false
  | last :: _ =>
    isVirama last || (c.toNat == 0x200C
      && (before.dropWhile Joining.isTransparent).head?.any Joining.joinsNext
      && (after.dropWhile Joining.isTransparent).head?.any Joining.joinsPrevious)

def joinersShow (before : List Char) : List Char → Bool
  | [] => true
  | c :: rest => (!isJoiner c || joinerShows c before rest) && joinersShow (c :: before) rest

/-- The most characters that a label beyond ASCII has. -/
def maxLength : Nat := 1000

/-- Whether a label may show this, whatever the other labels show. -/
def isSound (shown : List Char) : Bool :=
  !shown.any isForbidden && !startsWithMark shown && joinersShow [] shown
    && (Mapping.isAscii shown || shown.length ≤ maxLength)

/-- A label that says it is Punycode must be it, must not be needlessly so, and must show only
characters that stand for themselves. -/
def ofPunycode? (digits : List Char) : Option (List Char) := do
  let shown ← Punycode.decode? digits
  if !Mapping.isAscii shown && Mapping.map? shown = some shown then some shown else none

/-- The label of a text whose characters stand for themselves. -/
def ofText? (text : List Char) : Option Label :=
  match text with
  | 'x' :: 'n' :: '-' :: '-' :: digits => do
    if !Mapping.isAscii text then none
    let shown ← ofPunycode? digits
    if isSound shown then some { shown, written := text } else none
  | _ =>
    if !isSound text then none
    else if Mapping.isAscii text then some { shown := text, written := text }
    else some { shown := text, written := "xn--".toList ++ Punycode.encode text }

/-- Whether a label shows what is written from right to left. -/
def isRightward (label : Label) : Bool :=
  label.shown.any fun c => Direction.of c = .right || Direction.of c = .arabicDigit

/-- What a label may hold, but for its ends, that is written from left to right. -/
def fitsLeft (d : Direction) : Bool := [.left, .europeanDigit, .neutral, .mark].contains d

/-- What a label may hold, but for its ends, that is written from right to left. -/
def fitsRight (d : Direction) : Bool :=
  [.right, .arabicDigit, .europeanDigit, .neutral, .mark].contains d

/-- Whether a label shows the same in a name with parts from right to left: it starts with a
letter, ends with a letter or a digit and then marks, and keeps to the direction of its first
letter; one from right to left has digits of one kind. -/
def keepsDirection (label : Label) : Bool :=
  match label.shown.map Direction.of with
  | [] => true
  | first :: rest =>
    let body := (rest.reverse.dropWhile (· = .mark)).reverse
    match first with
    | .left =>
      body.dropLast.all fitsLeft && body.getLast?.all [.left, .europeanDigit].contains
    | .right =>
      body.dropLast.all fitsRight
        && body.getLast?.all [.right, .europeanDigit, .arabicDigit].contains
        && !(body.contains .europeanDigit && body.contains .arabicDigit)
    | _ => false

end Label

end CourierTrack.Url
