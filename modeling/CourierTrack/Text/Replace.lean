/-!
Replacing one text by another.
-/

namespace CourierTrack.Text

/-- What follows `mark` at the start of a text. -/
def after? : List Char → List Char → Option (List Char)
  | [], text => some text
  | _ :: _, [] => none
  | m :: mark, c :: text => if m = c then after? mark text else none

/-- Puts `value` in place of every occurrence of a mark that is not empty, from left to right;
`skip` characters belong to an occurrence already replaced. -/
def replaceFrom (mark value : List Char) : Nat → List Char → List Char
  | _, [] => []
  | skip + 1, _ :: rest => replaceFrom mark value skip rest
  | 0, c :: rest =>
    match after? mark (c :: rest) with
    | some _ => value ++ replaceFrom mark value (mark.length - 1) rest
    | none => c :: replaceFrom mark value 0 rest

def replace (mark value text : String) : String :=
  String.ofList (replaceFrom mark.toList value.toList 0 text.toList)

end CourierTrack.Text
