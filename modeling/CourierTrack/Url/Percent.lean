/-!
Percent-encoding: a character that must not stand in a part of an address is written as the bytes
of its UTF-8 form, each as `%` and two hexadecimal digits.
-/

namespace CourierTrack.Url.Percent

def bytes (c : Char) : List UInt8 := (String.singleton c).toUTF8.toList

def upperHex (n : Nat) : Char :=
  if n < 10 then Char.ofNat (48 + n) else Char.ofNat (55 + n)

def escape (b : UInt8) : List Char := ['%', upperHex (b.toNat / 16), upperHex (b.toNat % 16)]

/-- Writes the characters of a set as their bytes. -/
def encode (escaped : Char → Bool) (text : List Char) : List Char :=
  text.flatMap fun c => if escaped c then (bytes c).flatMap escape else [c]

def hexValue? (c : Char) : Option Nat :=
  let n := c.toNat
  if 48 ≤ n && n ≤ 57 then some (n - 48)
  else if 65 ≤ n && n ≤ 70 then some (n - 55)
  else if 97 ≤ n && n ≤ 102 then some (n - 87)
  else none

/-- The bytes of a text, where `%` and two hexadecimal digits stand for one byte. -/
def decode : List Char → List UInt8
  | '%' :: a :: b :: rest =>
    match hexValue? a, hexValue? b with
    | some high, some low => UInt8.ofNat (16 * high + low) :: decode rest
    | _, _ => 37 :: decode (a :: b :: rest)
  | c :: rest => bytes c ++ decode rest
  | [] => []

/-- Controls, and whatever is not ASCII. -/
def control (c : Char) : Bool := c.toNat < 0x20 || 0x7F ≤ c.toNat

def fragment (c : Char) : Bool := control c || " \"<>`".contains c

def path (c : Char) : Bool := fragment c || "#?\x7b\x7d".contains c

def userinfo (c : Char) : Bool := path c || "/:;=@[\\]^|".contains c

def query (c : Char) : Bool := control c || " \"#<>".contains c

/-- A quote is written as its byte in the queries of the web's own schemes. -/
def specialQuery (c : Char) : Bool := query c || c = '\''

/-- Nothing is written as bytes if no character is in the set. -/
theorem encode_eq_self {escaped : Char → Bool} {text : List Char}
    (h : ∀ c ∈ text, escaped c = false) : encode escaped text = text := by
  induction text with
  | nil => rfl
  | cons c rest ih =>
    have hc := h c List.mem_cons_self
    have hr := ih fun x hx => h x (List.mem_cons_of_mem c hx)
    rw [encode] at hr ⊢
    simp [hc, hr]

end CourierTrack.Url.Percent
