/-!
JSON values. An object keeps its members in the order of their names, each name once.
-/

namespace CourierTrack

/-- A whole number that a frame can carry exactly. -/
structure WireInteger where
  value : Int
  lower : -0x8000000000000000 ≤ value
  upper : value < 0x10000000000000000
  deriving DecidableEq, Repr

namespace WireInteger

/-- A whole number in range, or none. -/
def ofInt? (n : Int) : Option WireInteger :=
  if h : -0x8000000000000000 ≤ n ∧ n < 0x10000000000000000 then some ⟨n, h.1, h.2⟩ else none

@[simp]
theorem ofInt?_value (n : WireInteger) : ofInt? n.value = some n :=
  dif_pos ⟨n.lower, n.upper⟩

/-- Every 64-bit word is in range. -/
def ofUInt64 (n : UInt64) : WireInteger :=
  ⟨n.toNat, by omega, by have := n.toNat_lt; omega⟩

end WireInteger

inductive Json where
  | null
  | bool (value : Bool)
  | integer (value : WireInteger)
  | float (value : Float)
  | text (value : String)
  | array (items : List Json)
  | object (members : List (String × Json))
  deriving Repr, Inhabited

namespace Json

mutual

/-- Equality of values; floats compare as numbers, and no whole number equals a float. -/
def beq : Json → Json → Bool
  | .null, .null => true
  | .bool a, .bool b => a == b
  | .integer a, .integer b => a == b
  | .float a, .float b => a == b
  | .text a, .text b => a == b
  | .array a, .array b => beqItems a b
  | .object a, .object b => beqMembers a b
  | _, _ => false

def beqItems : List Json → List Json → Bool
  | [], [] => true
  | a :: as, b :: bs => beq a b && beqItems as bs
  | _, _ => false

def beqMembers : List (String × Json) → List (String × Json) → Bool
  | [], [] => true
  | (k, a) :: as, (l, b) :: bs => k == l && beq a b && beqMembers as bs
  | _, _ => false

end

instance : BEq Json := ⟨beq⟩

/-- Whether a name comes before another one: by its first other character, or as its front. -/
def precedes : List Char → List Char → Bool
  | [], [] => false
  | [], _ :: _ => true
  | _ :: _, [] => false
  | a :: as, b :: bs => a.toNat < b.toNat || (a.toNat == b.toNat && precedes as bs)

theorem precedes_irrefl (a : List Char) : precedes a a = false := by
  induction a with
  | nil => rfl
  | cons c a ih => simp [precedes, ih]

theorem precedes_trans {a b c : List Char} (hab : precedes a b = true)
    (hbc : precedes b c = true) : precedes a c = true := by
  induction a generalizing b c with
  | nil =>
    cases b with
    | nil => simp [precedes] at hab
    | cons y b => cases c <;> simp [precedes] at hbc ⊢
  | cons x a ih =>
    cases b with
    | nil => simp [precedes] at hab
    | cons y b =>
      cases c with
      | nil => simp [precedes] at hbc
      | cons z c =>
        simp only [precedes, Bool.or_eq_true, Bool.and_eq_true, decide_eq_true_eq,
          beq_iff_eq] at hab hbc ⊢
        rcases hab with hxy | ⟨hxy, hab⟩
        · rcases hbc with hyz | ⟨hyz, -⟩
          · exact .inl (Nat.lt_trans hxy hyz)
          · exact .inl (hyz ▸ hxy)
        · rcases hbc with hyz | ⟨hyz, hbc⟩
          · exact .inl (hxy ▸ hyz)
          · exact .inr ⟨hxy.trans hyz, ih hab hbc⟩

/-- Puts a member in its place; a member of the same name is replaced. -/
def insert (key : String) (value : Json) : List (String × Json) → List (String × Json)
  | [] => [(key, value)]
  | (k, v) :: rest =>
    if key = k then (key, value) :: rest
    else if precedes key.toList k.toList then (key, value) :: (k, v) :: rest
    else (k, v) :: insert key value rest

/-- The object with these members; of several with one name the last counts. -/
def ofMembers (members : List (String × Json)) : Json :=
  .object (members.foldl (fun sorted m => insert m.1 m.2 sorted) [])

def lookup (key : String) : List (String × Json) → Option Json
  | [] => none
  | (k, v) :: rest => if key = k then some v else lookup key rest

@[simp]
theorem lookup_insert (key other : String) (value : Json) (members : List (String × Json)) :
    lookup other (insert key value members) =
      if other = key then some value else lookup other members := by
  induction members with
  | nil => simp [insert, lookup]
  | cons m rest ih =>
    obtain ⟨k, v⟩ := m
    unfold insert
    by_cases hk : key = k
    · subst hk
      by_cases ho : other = key <;> simp [lookup, ho]
    · by_cases hlt : precedes key.toList k.toList = true
      · by_cases ho : other = key <;> simp [lookup, hk, hlt, ho]
      · by_cases ho : other = key
        · subst ho; simp [lookup, hk, hlt, ih]
        · simp [lookup, hk, hlt, ih, ho]

def get? (key : String) : Json → Option Json
  | .object members => lookup key members
  | _ => none

end Json

end CourierTrack
