import CourierTrack.Decimal.Grammar
import CourierTrack.Source.Feed
/-!
The grammar of fixes: how a text is made of lines and a line of fields, and what the fields are
when they give a fix.
-/

namespace CourierTrack.Source

open Time

/-- Whether pieces are what stands between the marks of a text. -/
structure IsCut (mark : Char) (text : List Char) (pieces : List (List Char)) : Prop where
  joined : [mark].intercalate pieces = text
  free : ∀ piece ∈ pieces, mark ∉ piece
  some : pieces ≠ []

/-- Whether lines are those of some bytes: a line feed ends each of them, or all but the last one,
which is not empty then. -/
structure IsLines (bytes : List UInt8) (lines : List (List UInt8)) : Prop where
  joined : lines.flatMap (· ++ [10]) = bytes ∨
    lines.flatMap (· ++ [10]) = bytes ++ [10] ∧ lines.getLast? ≠ some []
  free : ∀ line ∈ lines, 10 ∉ line

def encoding (text : List Char) : List UInt8 := (String.ofList text).toByteArray.data.toList

/-- Whether texts are the lines of some bytes up to the first one that encodes no text. -/
def AreTexts (bytes : List UInt8) (texts : List (List Char)) : Prop :=
  ∃ rest, IsLines bytes (texts.map encoding ++ rest) ∧
    ∀ line ∈ rest.head?, ∀ text, line ≠ encoding text

/-- Whether a text is a literal with a value. -/
structure Denotes (text : List Char) (x : Float) : Prop where
  literal : Decimal.IsLiteral text
  value : Decimal.float? text = some x

structure InRange (lat lng : Float) (accuracy : Option Float) : Prop where
  lat : -90 ≤ lat ∧ lat ≤ 90
  lng : -180 ≤ lng ∧ lng ≤ 180
  accuracy : ∀ x, accuracy = some x → x.isFinite = true ∧ 0 ≤ x

/-- Whether the third field of a line, if there is one, gives an accuracy. -/
inductive IsAccuracy : Option (List Char) → Option Float → Prop where
  | missing : IsAccuracy none none
  | empty : IsAccuracy (some []) none
  | given {text : List Char} {x : Float} (h : Denotes text x) : IsAccuracy (some text) (some x)

/-- Whether a line has these two or three fields, but for blanks around them. -/
inductive HasFields (line : List Char) :
    List Char → List Char → Option (List Char) → Prop where
  | two {first second : List Char} (h : IsCut ',' line [first, second]) :
      HasFields line (Text.trim first) (Text.trim second) none
  | three {first second third : List Char} (h : IsCut ',' line [first, second, third]) :
      HasFields line (Text.trim first) (Text.trim second) (some (Text.trim third))

/-- Whether a line is a fix. -/
structure IsFix (line : List Char) (s : Sample) : Prop where
  fields : ∃ lat lng third, HasFields line lat lng third ∧ Denotes lat s.point.lat ∧
    Denotes lng s.point.lng ∧ IsAccuracy third s.accuracy
  inRange : InRange s.point.lat s.point.lng s.accuracy

end CourierTrack.Source
