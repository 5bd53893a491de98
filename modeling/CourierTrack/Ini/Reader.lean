import CourierTrack.Ini.Basic
import CourierTrack.Text.Blank
/-!
Reading settings in sections.

A header is a name in brackets. An entry is a key up to `=` or `:`, which may run over several
lines, and a value up to the end of the line; parts of a value that start it may stand in quotes.
A comment starts a line with `;` or `#`. A backslash escapes the character after it, and joins a
line with the next one. A line that is indented holds a header or an entry, and no comment; a key
on it that has no end is passed over, up to where its reading stopped.
-/

namespace CourierTrack.Ini

/-- A character, and whether it is the first of its line. -/
structure Mark where
  char : Char
  first : Bool
  deriving Repr

def marks (first : Bool) : List Char → List Mark
  | [] => []
  | c :: rest => ⟨c, first⟩ :: marks (c = '\n') rest

/-- What a character after a backslash stands for. -/
def escape : Char → Char
  | '0' => '\x00'
  | 'a' => '\x07'
  | 'b' => '\x08'
  | 't' => '\t'
  | 'r' => '\r'
  | 'n' => '\n'
  | c => c

def hexDigit? (c : Char) : Option Nat :=
  let n := c.toNat
  if 48 ≤ n && n ≤ 57 then some (n - 48)
  else if 65 ≤ n && n ≤ 70 then some (n - 55)
  else if 97 ≤ n && n ≤ 102 then some (n - 87)
  else none

/-- The character of a code point in hexadecimal digits, in front of which a plus may stand. -/
def codePoint? (digits : List Char) : Option Char := do
  let digits := match digits with
    | '+' :: rest => rest
    | digits => digits
  let n ← digits.foldlM (fun n c => (hexDigit? c).map (16 * n + ·)) 0
  if 0xD800 ≤ n && n ≤ 0xDFFF then none else some (Char.ofNat n)

/-- Where the reading of a code point fails that has `n` digits: at the last digit, or at what
follows a backslash among them that does not join two lines. -/
def codeEnd : Nat → List Mark → List Mark
  | 0, text => text
  | _, [] => []
  | n + 1, m :: rest =>
    match m.char, rest with
    | '\\', [] => []
    | '\\', e :: after =>
      if e.char ≠ '\n' then rest else if n = 0 then rest else codeEnd n after
    | _, rest => if n = 0 then m :: rest else codeEnd n rest

def prepend (c : Char) (result : Except (List Mark) (List Char × List Mark)) :
    Except (List Mark) (List Char × List Mark) :=
  result.map fun (text, rest) => (c :: text, rest)

/-- Reads up to a character that ends the text, or up to the end of all if that may end it. An
error tells where reading stopped. -/
def readUntil (ends : Char → Bool) (mayRunOut : Bool) :
    List Mark → Except (List Mark) (List Char × List Mark)
  | [] => if mayRunOut then .ok ([], []) else .error []
  | m :: rest =>
    if ends m.char then .ok ([], m :: rest)
    else if m.char = '\\' then
      match rest with
      | [] => if mayRunOut then .ok (['\\'], []) else .error []
      | e :: rest =>
        if e.char = '\n' then readUntil ends mayRunOut rest
        else if e.char = 'x' then
          match rest with
          | h₁ :: h₂ :: h₃ :: h₄ :: rest =>
            match codePoint? [h₁.char, h₂.char, h₃.char, h₄.char] with
            | some c => prepend c (readUntil ends mayRunOut rest)
            | none => .error (codeEnd 4 (h₁ :: h₂ :: h₃ :: h₄ :: rest))
          | digits => .error (codeEnd 4 digits)
        else prepend (escape e.char) (readUntil ends mayRunOut rest)
    else prepend m.char (readUntil ends mayRunOut rest)

def isBreak (c : Char) : Bool := c = '\n' || c = '\r'

def isIndent (c : Char) : Bool := c = ' ' || c = '\t'

def endsKey (c : Char) : Bool := c = '=' || c = ':'

/-- Skips blanks, but not those that indent a line. -/
def skipGap : List Mark → List Mark
  | [] => []
  | m :: rest =>
    if isBreak m.char then
      match rest with
      | [] => []
      | next :: _ => if isIndent next.char then rest else skipGap rest
    else if Text.isBlank m.char then skipGap rest
    else m :: rest

def skipLine (text : List Mark) : List Mark := (text.dropWhile fun m => m.char ≠ '\n').drop 1

/-- Reads the parts of a value: texts in quotes, and then what is left of the line. -/
def readParts : Nat → Bool → List Mark → Option (List Char × List Mark)
  | 0, _, _ => none
  | _, _, [] => some ([], [])
  | fuel + 1, first, m :: rest =>
    if m.char = '"' || m.char = '\'' then
      match readUntil (· = m.char) false rest with
      | .error _ => none
      | .ok (quoted, rest) => do
        let (text, rest) ← readParts fuel false (rest.drop 1)
        return (quoted ++ text, rest)
    else
      match readUntil isBreak true (m :: rest) with
      | .error _ => none
      | .ok (text, rest) => some (if first then Text.trim text else Text.trimEnd text, rest)

/-- Reads the value after `=` or `:`. -/
def readValue (text : List Mark) : Option (List Char × List Mark) :=
  let text := text.dropWhile fun m => Text.isBlank m.char && !isBreak m.char
  readParts (text.length + 1) true text

def readEntry (ini : Ini) (key : List Char) (rest : List Mark) : Option (Ini × List Mark) :=
  match Text.trim key with
  | [] => none
  | key => do
    let (value, rest) ← readValue (rest.drop 1)
    return (ini.addEntry (String.ofList key) (String.ofList value), rest)

/-- Reads what follows the indent of a line. A header, and the end of a line, is left to the next
step. -/
def readIndented (ini : Ini) : List Mark → Option (Ini × List Mark)
  | [] => some (ini, [])
  | m :: rest =>
    if isBreak m.char || m.char = '[' then some (ini, m :: rest)
    else
      match readUntil endsKey false (m :: rest) with
      | .error rest => some (ini, rest)
      | .ok (key, rest) => readEntry ini key rest

/-- Reads a comment, a header or an entry. -/
def readItem (ini : Ini) (m : Mark) (rest : List Mark) : Option (Ini × List Mark) :=
  if m.char = ';' || m.char = '#' then
    if m.first then some (ini, skipLine rest) else none
  else if m.char = '[' then
    match readUntil (· = ']') false rest with
    | .error _ => none
    | .ok (name, rest) => some (ini.addSection (String.ofList (Text.trim name)), rest.drop 1)
  else if isIndent m.char then readIndented ini (rest.dropWhile fun m => isIndent m.char)
  else
    match readUntil endsKey false (m :: rest) with
    | .error _ => none
    | .ok (key, rest) => readEntry ini key rest

def readItems : Nat → Ini → List Mark → Option Ini
  | 0, _, _ => none
  | _, ini, [] => some ini
  | fuel + 1, ini, m :: rest => do
    let (ini, rest) ← readItem ini m rest
    readItems fuel ini (skipGap rest)

/-- Reads settings; none if the text is no such thing. -/
def ofText? (text : String) : Option Ini :=
  let text := (marks true text.toList).dropWhile fun m => isBreak m.char
  readItems (text.length + 1) {} text

end CourierTrack.Ini
