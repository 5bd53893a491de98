import CourierTrack.Text.Blank
/-!
Sets of characters as ranges of code points. A set is written in words: a code point in hexadecimal
digits, or the first and the last one of a range with a hyphen between them.
-/

namespace CourierTrack.Text

/-- The value of a digit; letters are capitals. -/
def hexDigit (c : Char) : Nat := if c.toNat < 58 then c.toNat - 48 else c.toNat - 55

def hexNumber (digits : List Char) : Nat := digits.foldl (fun n c => 16 * n + hexDigit c) 0

structure Range where
  first : Nat
  last : Nat
  deriving Repr

namespace Range

def contains (r : Range) (c : Char) : Bool := r.first ≤ c.toNat && c.toNat ≤ r.last

def ofWord (word : String) : Range :=
  match splitAt '-' word.toList with
  | [first, last] => ⟨hexNumber first, hexNumber last⟩
  | _ => ⟨hexNumber word.toList, hexNumber word.toList⟩

end Range

abbrev Ranges := List Range

namespace Ranges

def ofRows (rows : List String) : Ranges :=
  rows.flatMap fun row => (row.splitOn " ").map Range.ofWord

def contains (ranges : Ranges) (c : Char) : Bool := ranges.any fun r => r.contains c

end Ranges

end CourierTrack.Text
