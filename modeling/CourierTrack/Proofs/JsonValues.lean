import CourierTrack.Proofs.JsonReadback
/-!
Which JSON values the reader gives: none with too many containers inside each other, with members
out of order or with a float that is not finite. Such a value reads back if its floats do.
-/

namespace CourierTrack.Proofs.JsonValues

open CourierTrack.Json
open CourierTrack.Proofs.JsonNumbers
open CourierTrack.Proofs.JsonReadback

mutual

def floats : Json → List Float
  | .float x => [x]
  | .array items => itemFloats items
  | .object members => memberFloats members
  | _ => []

def itemFloats : List Json → List Float
  | [] => []
  | item :: rest => floats item ++ itemFloats rest

def memberFloats : List (String × Json) → List Float
  | [] => []
  | (_, value) :: rest => floats value ++ memberFloats rest

end

/-- Whether a value has at most `depth` containers inside each other, and its members in order. -/
inductive Orderly : Nat → Json → Prop where
  | null {depth : Nat} : Orderly depth .null
  | bool {depth : Nat} (value : Bool) : Orderly depth (.bool value)
  | integer {depth : Nat} (value : WireInteger) : Orderly depth (.integer value)
  | float {depth : Nat} (value : Float) : Orderly depth (.float value)
  | text {depth : Nat} (value : String) : Orderly depth (.text value)
  | array {depth : Nat} {items : List Json} (h : ∀ j ∈ items, Orderly depth j) :
      Orderly (depth + 1) (.array items)
  | object {depth : Nat} {members : List (String × Json)} (hsorted : Sorted members)
      (h : ∀ m ∈ members, Orderly depth m.2) : Orderly (depth + 1) (.object members)

variable {depth : Nat} {j : Json} {js : List Json} {ms : List (String × Json)} {x : Float}

theorem mem_itemFloats : x ∈ itemFloats js ↔ ∃ j ∈ js, x ∈ floats j := by
  induction js with
  | nil => simp [itemFloats]
  | cons j js ih => simp [itemFloats, ih]

theorem mem_memberFloats : x ∈ memberFloats ms ↔ ∃ m ∈ ms, x ∈ floats m.2 := by
  induction ms with
  | nil => simp [memberFloats]
  | cons m ms ih => simp [memberFloats, ih]

/-! Members in order -/

theorem precedes_total {a b : List Char} (hab : precedes a b = false) (hba : precedes b a = false) :
    a = b := by
  induction a generalizing b with
  | nil =>
      cases b with
      | nil => rfl
      | cons _ _ => simp [precedes] at hab
  | cons x a ih =>
      cases b with
      | nil => simp [precedes] at hba
      | cons y b =>
          simp only [precedes, Bool.or_eq_false_iff, decide_eq_false_iff_not, Nat.not_lt] at hab hba
          have hxy : x.toNat = y.toNat := Nat.le_antisymm hba.1 hab.1
          simp only [hxy, beq_self_eq_true, Bool.true_and] at hab hba
          rw [Char.toNat_inj.1 hxy, ih hab.2 hba.2]

theorem mem_insert {key : String} {value : Json} {m : String × Json}
    (h : m ∈ Json.insert key value ms) : m = (key, value) ∨ m ∈ ms := by
  induction ms with
  | nil => exact .inl (List.mem_singleton.1 h)
  | cons m' ms ih =>
      obtain ⟨k, v⟩ := m'
      unfold Json.insert at h
      split at h
      · rcases List.mem_cons.1 h with rfl | h
        · exact .inl rfl
        · exact .inr (List.mem_cons_of_mem _ h)
      · split at h
        · exact List.mem_cons.1 h
        · rcases List.mem_cons.1 h with rfl | h
          · exact .inr List.mem_cons_self
          · exact (ih h).imp_right (List.mem_cons_of_mem _)

theorem sorted_insert (h : Sorted ms) (key : String) (value : Json) :
    Sorted (Json.insert key value ms) := by
  induction ms with
  | nil => exact List.pairwise_singleton _ _
  | cons m ms ih =>
      obtain ⟨k, v⟩ := m
      obtain ⟨hfirst, hrest⟩ := List.pairwise_cons.1 h
      unfold Json.insert
      split
      · rename_i heq
        subst heq
        exact h
      · rename_i hne
        split
        · rename_i hlt
          refine List.pairwise_cons.2 ⟨?_, h⟩
          intro name hname
          rcases List.mem_cons.1 hname with rfl | hname
          · exact hlt
          · exact precedes_trans hlt (hfirst name hname)
        · rename_i hle
          refine List.pairwise_cons.2 ⟨?_, ih hrest⟩
          intro name hname
          obtain ⟨m, hm, rfl⟩ := List.mem_map.1 hname
          rcases mem_insert hm with rfl | hm
          · -- The new name is neither the first one nor before it.
            cases hbefore : precedes k.toList key.toList with
            | true => rfl
            | false =>
                have htexts := precedes_total (Bool.eq_false_iff.2 hle) hbefore
                exact absurd (String.toList_inj.1 htexts) hne
          · exact hfirst m.1 (List.mem_map_of_mem hm)

theorem sorted_foldl_insert (front ms : List (String × Json)) (h : Sorted front) :
    Sorted (ms.foldl (fun sorted m => Json.insert m.1 m.2 sorted) front) := by
  induction ms generalizing front with
  | nil => exact h
  | cons m ms ih => exact ih _ (sorted_insert h m.1 m.2)

theorem mem_foldl_insert {front : List (String × Json)} {m : String × Json}
    (h : m ∈ ms.foldl (fun sorted m => Json.insert m.1 m.2 sorted) front) : m ∈ front ∨ m ∈ ms := by
  induction ms generalizing front with
  | nil => exact .inl h
  | cons m' ms ih =>
      rcases ih h with hfront | hms
      · rcases mem_insert hfront with rfl | hfront
        · exact .inr List.mem_cons_self
        · exact .inl hfront
      · exact .inr (List.mem_cons_of_mem _ hms)

/-- An object has its members in order, and no others than it was given. -/
theorem ofMembers_spec (ms : List (String × Json)) :
    ∃ sorted, ofMembers ms = .object sorted ∧ Sorted sorted ∧ ∀ m ∈ sorted, m ∈ ms := by
  refine ⟨_, rfl, sorted_foldl_insert [] ms List.Pairwise.nil, ?_⟩
  intro m hm
  exact (mem_foldl_insert hm).resolve_left List.not_mem_nil

/-! Values with floats of a kind -/

/-- Whether a value has few containers inside each other and all its floats are of a kind. -/
structure Admitted (P : Float → Prop) (depth : Nat) (j : Json) : Prop where
  orderly : Orderly depth j
  all : ∀ x ∈ floats j, P x

section Kinds

variable {P : Float → Prop}

theorem admitted_null : Admitted P depth .null := ⟨.null, by simp [floats]⟩

theorem admitted_bool (b : Bool) : Admitted P depth (.bool b) := ⟨.bool b, by simp [floats]⟩

theorem admitted_integer (n : WireInteger) : Admitted P depth (.integer n) :=
  ⟨.integer n, by simp [floats]⟩

theorem admitted_float (h : P x) : Admitted P depth (.float x) := by
  refine ⟨.float x, ?_⟩
  intro y hy
  obtain rfl := List.mem_singleton.1 hy
  exact h

theorem admitted_text (s : String) : Admitted P depth (.text s) := ⟨.text s, by simp [floats]⟩

theorem admitted_array (h : ∀ j ∈ js, Admitted P depth j) :
    Admitted P (depth + 1) (.array js) := by
  constructor
  · apply Orderly.array
    intro j hj
    exact (h j hj).orderly
  · intro x hx
    obtain ⟨j, hj, hxj⟩ := mem_itemFloats.1 hx
    exact (h j hj).all x hxj

theorem admitted_ofMembers (h : ∀ m ∈ ms, Admitted P depth m.2) :
    Admitted P (depth + 1) (ofMembers ms) := by
  obtain ⟨sorted, heq, hsorted, hmem⟩ := ofMembers_spec ms
  rw [heq]
  constructor
  · apply Orderly.object hsorted
    intro m hm
    exact (h m (hmem m hm)).orderly
  · intro x hx
    obtain ⟨m, hm, hxm⟩ := mem_memberFloats.1 hx
    exact (h m (hmem m hm)).all x hxm

theorem Admitted.of_mem_object (h : Admitted P (depth + 1) (.object ms)) {m : String × Json}
    (hm : m ∈ ms) : Admitted P depth m.2 := by
  obtain ⟨horderly, hall⟩ := h
  cases horderly with
  | object _ horderly =>
      refine ⟨horderly m hm, ?_⟩
      intro x hx
      exact hall x (mem_memberFloats.2 ⟨m, hm, hx⟩)

end Kinds

/-- A value reads back from its text if its floats do. -/
theorem Admitted.readable (h : Admitted Recovers depth j) : Readable depth j := by
  obtain ⟨horderly, hall⟩ := h
  induction horderly with
  | null => exact .null
  | bool value => exact .bool value
  | integer value => exact .integer value
  | float value => exact .float (hall value List.mem_cons_self)
  | text value => exact .text value
  | array _ ih =>
      apply Readable.array
      intro j hj
      apply ih j hj
      intro x hx
      exact hall x (mem_itemFloats.2 ⟨j, hj, hx⟩)
  | object hsorted _ ih =>
      apply Readable.object hsorted
      intro m hm
      apply ih m hm
      intro x hx
      exact hall x (mem_memberFloats.2 ⟨m, hm, hx⟩)

/-! Values that are read -/

abbrev IsFinite (x : Float) : Prop := x.isFinite = true

section Readers

variable {read : List Char → Option (Json × List Char)} {P : Json → Prop} {cs rest : List Char}

theorem items_mem (hread : ∀ cs j rest, read cs = some (j, rest) → P j) {steps : Nat}
    (h : items read steps cs = some (js, rest)) : ∀ j ∈ js, P j := by
  induction steps generalizing cs js rest with
  | zero => cases h
  | succ steps ih =>
      rw [items] at h
      obtain ⟨⟨first, left⟩, hfirst, h⟩ := Option.bind_eq_some_iff.1 h
      have hP := hread cs first left hfirst
      simp only at h
      split at h
      · obtain ⟨rfl, -⟩ := Prod.mk.inj (Option.some.inj h)
        intro j hj
        obtain rfl := List.mem_singleton.1 hj
        exact hP
      · obtain ⟨⟨more, left⟩, hmore, h⟩ := Option.bind_eq_some_iff.1 h
        obtain ⟨rfl, -⟩ := Prod.mk.inj (Option.some.inj h)
        intro j hj
        rcases List.mem_cons.1 hj with rfl | hj
        · exact hP
        · exact ih hmore j hj
      · cases h

theorem member_value (hread : ∀ cs j rest, read cs = some (j, rest) → P j) {m : String × Json}
    (h : member read cs = some (m, rest)) : P m.2 := by
  unfold member at h
  split at h
  · obtain ⟨⟨name, left⟩, -, h⟩ := Option.bind_eq_some_iff.1 h
    simp only at h
    split at h
    · obtain ⟨⟨value, left⟩, hvalue, h⟩ := Option.bind_eq_some_iff.1 h
      obtain ⟨rfl, -⟩ := Prod.mk.inj (Option.some.inj h)
      exact hread _ _ _ hvalue
    · cases h
  · cases h

theorem members_mem (hread : ∀ cs j rest, read cs = some (j, rest) → P j) {steps : Nat}
    (h : members read steps cs = some (ms, rest)) : ∀ m ∈ ms, P m.2 := by
  induction steps generalizing cs ms rest with
  | zero => cases h
  | succ steps ih =>
      rw [members] at h
      obtain ⟨⟨first, left⟩, hfirst, h⟩ := Option.bind_eq_some_iff.1 h
      have hP := member_value hread hfirst
      simp only at h
      split at h
      · obtain ⟨rfl, -⟩ := Prod.mk.inj (Option.some.inj h)
        intro m hm
        obtain rfl := List.mem_singleton.1 hm
        exact hP
      · obtain ⟨⟨more, left⟩, hmore, h⟩ := Option.bind_eq_some_iff.1 h
        obtain ⟨rfl, -⟩ := Prod.mk.inj (Option.some.inj h)
        intro m hm
        rcases List.mem_cons.1 hm with rfl | hm
        · exact hP
        · exact ih hmore m hm
      · cases h

theorem arrayBody_mem (hread : ∀ cs j rest, read cs = some (j, rest) → P j)
    (h : arrayBody read cs = some (js, rest)) : ∀ j ∈ js, P j := by
  unfold arrayBody at h
  split at h
  · obtain ⟨rfl, -⟩ := Prod.mk.inj (Option.some.inj h)
    simp
  · exact items_mem hread h

theorem objectBody_mem (hread : ∀ cs j rest, read cs = some (j, rest) → P j)
    (h : objectBody read cs = some (ms, rest)) : ∀ m ∈ ms, P m.2 := by
  unfold objectBody at h
  split at h
  · obtain ⟨rfl, -⟩ := Prod.mk.inj (Option.some.inj h)
    simp
  · exact members_mem hread h

end Readers

variable {cs rest : List Char}

theorem admitted_assembled {negative : Bool} {whole : List Char} {fraction : Option (List Char)}
    {scale : Option Int} (h : assembled negative whole fraction scale = some j) :
    Admitted IsFinite depth j := by
  have hfinite {x : Float} (hx : (if x.isFinite then some (Json.float x) else none) = some j) :
      Admitted IsFinite depth j := by
    split at hx
    · rename_i hx'
      obtain rfl := Option.some.inj hx
      exact admitted_float hx'
    · cases hx
  unfold assembled at h
  split at h
  · unfold wholeNumber at h
    simp only at h
    split at h
    · split at h
      · obtain rfl := Option.some.inj h
        exact admitted_float rfl
      · obtain rfl := Option.some.inj h
        exact admitted_integer _
    · exact hfinite h
  · exact hfinite h

theorem admitted_number {negative : Bool} (h : number negative cs = some (j, rest)) :
    Admitted IsFinite depth j := by
  rw [number_eq] at h
  obtain ⟨whole, -, h⟩ := Option.bind_eq_some_iff.1 h
  obtain ⟨fraction, -, h⟩ := Option.bind_eq_some_iff.1 h
  obtain ⟨scale, -, h⟩ := Option.bind_eq_some_iff.1 h
  obtain ⟨k, hk, heq⟩ := Option.map_eq_some_iff.1 h
  obtain ⟨rfl, -⟩ := Prod.mk.inj heq
  exact admitted_assembled hk

theorem admitted_scalar (h : scalar cs = some (j, rest)) : Admitted IsFinite depth j := by
  unfold scalar at h
  split at h
  · obtain ⟨rfl, -⟩ := Prod.mk.inj (Option.some.inj h)
    exact admitted_null
  · obtain ⟨rfl, -⟩ := Prod.mk.inj (Option.some.inj h)
    exact admitted_bool true
  · obtain ⟨rfl, -⟩ := Prod.mk.inj (Option.some.inj h)
    exact admitted_bool false
  · obtain ⟨r, -, heq⟩ := Option.map_eq_some_iff.1 h
    obtain ⟨rfl, -⟩ := Prod.mk.inj heq
    exact admitted_text _
  · exact admitted_number h
  · exact admitted_number h

theorem admitted_value (h : value depth cs = some (j, rest)) : Admitted IsFinite depth j := by
  induction depth generalizing cs j rest with
  | zero => exact admitted_scalar h
  | succ depth ih =>
      rw [value] at h
      split at h
      · obtain ⟨r, hr, heq⟩ := Option.map_eq_some_iff.1 h
        obtain ⟨rfl, -⟩ := Prod.mk.inj heq
        exact admitted_array (arrayBody_mem (fun _ _ _ => ih) hr)
      · obtain ⟨r, hr, heq⟩ := Option.map_eq_some_iff.1 h
        obtain ⟨rfl, -⟩ := Prod.mk.inj heq
        exact admitted_ofMembers (objectBody_mem (fun _ _ _ => ih) hr)
      · exact admitted_scalar h

theorem admitted_parse {text : String} (h : parse? text = some j) :
    Admitted IsFinite maxDepth j := by
  unfold parse? parseWithin? at h
  split at h
  · rename_i hvalue
    split at h
    · obtain rfl := Option.some.inj h
      exact admitted_value hvalue
    · cases h
  · cases h

end CourierTrack.Proofs.JsonValues
