import CourierTrack.Url.Label
import CourierTrack.Url.Percent
/-!
Domain names as they stand in an address: in small letters, and in ASCII.
-/

namespace CourierTrack.Url.Domain

open Text

def join : List (List Char) → List Char
  | [] => []
  | [label] => label
  | label :: rest => label ++ '.' :: join rest

/-- Where a label is written from right to left, every label must show the same in all places. -/
def keepDirection (labels : List Label) : Bool :=
  !labels.any Label.isRightward || labels.all Label.keepsDirection

/-- The domain name that a text in an address stands for. -/
def ofText? (text : List Char) : Option (List Char) := do
  let decoded ← String.fromUTF8? ⟨(Percent.decode text).toArray⟩
  let mapped ← Mapping.map? decoded.toList
  let labels ← (splitAt '.' mapped).mapM Label.ofText?
  if keepDirection labels then some (join (labels.map Label.written)) else none

end CourierTrack.Url.Domain
