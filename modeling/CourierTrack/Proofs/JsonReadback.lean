import CourierTrack.Proofs.JsonNumbers
/-!
A JSON value reads back from its text: strings by their escapes, containers item by item. Members
must be in the order of their names, as objects keep them.
-/

namespace CourierTrack.Proofs.JsonReadback

open CourierTrack.Json
open CourierTrack.Proofs.JsonNumbers

/-! Strings -/

theorem unit_hexDigits : ∀ n, n < 32 →
    unit? '0' '0' (hexDigit (n / 16)) (hexDigit (n % 16)) = some n := by decide

theorem isSurrogate_control {n : Nat} (h : n < 32) :
    isLowSurrogate n = false ∧ isHighSurrogate n = false := by
  simp [isLowSurrogate, isHighSurrogate]
  omega

theorem stringBody_plain {c : Char} (hquote : c ≠ '"') (hbackslash : c ≠ '\\')
    (hcontrol : ¬ c.toNat < 0x20) (more : List Char) :
    stringBody (c :: more) = (stringBody more).map fun r => (c :: r.1, r.2) := by
  have hcheck : (decide (c.toNat < 0x20) || decide (c = '\\')) = false := by
    rw [decide_eq_false hcontrol, decide_eq_false hbackslash, Bool.or_false]
  rw [stringBody.eq_def]
  split
  · simp at *
  · rename_i heq
    exact absurd (List.cons.inj heq).1 hquote
  · rename_i heq
    exact absurd (List.cons.inj heq).1 hbackslash
  · rename_i heq
    exact absurd (List.cons.inj heq).1 hbackslash
  · rename_i heq
    obtain ⟨rfl, rfl⟩ := List.cons.inj heq
    rw [hcheck]
    rfl

theorem stringBody_escape (c : Char) (more : List Char) :
    stringBody (escape c ++ more) = (stringBody more).map fun r => (c :: r.1, r.2) := by
  unfold escape
  split
  · rfl
  · rfl
  · rfl
  · rfl
  · rfl
  · rfl
  · rfl
  · rename_i _ hquote hbackslash _ _ _ _ _
    by_cases hcontrol : c.toNat < 0x20
    · rw [if_pos hcontrol]
      have hunit := unit_hexDigits c.toNat hcontrol
      obtain ⟨hlow, hhigh⟩ := isSurrogate_control hcontrol
      simp only [List.cons_append, List.nil_append, stringBody, hunit, hlow, hhigh]
      simp
    · rw [if_neg hcontrol, List.singleton_append]
      exact stringBody_plain hquote hbackslash hcontrol more

/-- Reading a string undoes its escapes. -/
theorem stringBody_flatMap_escape (cs rest : List Char) :
    stringBody (cs.flatMap escape ++ '"' :: rest) = some (cs, rest) := by
  induction cs with
  | nil => rfl
  | cons c cs ih =>
      rw [List.flatMap_cons, List.append_assoc, stringBody_escape, ih]
      rfl

theorem quoted_append (s : String) (rest : List Char) :
    quoted s ++ rest = '"' :: (s.toList.flatMap escape ++ '"' :: rest) := by
  simp [quoted]

theorem scalar_quoted (s : String) (rest : List Char) :
    scalar (quoted s ++ rest) = some (.text s, rest) := by
  rw [quoted_append]
  change (stringBody _).map _ = _
  rw [stringBody_flatMap_escape]
  simp

/-! Containers -/

/-- Whether a text starts with neither a blank nor the end of a container. -/
def Opens (cs : List Char) : Prop :=
  ∃ c more, cs = c :: more ∧ isSpace c = false ∧ c ≠ ']' ∧ c ≠ '\x7d'

theorem Opens.append {cs : List Char} (h : Opens cs) (rest : List Char) : Opens (cs ++ rest) := by
  obtain ⟨c, more, rfl, hc⟩ := h
  exact ⟨c, more ++ rest, rfl, hc⟩

theorem Opens.skipSpace {cs : List Char} (h : Opens cs) : skipSpace cs = cs := by
  obtain ⟨c, more, rfl, hc, -⟩ := h
  simp [Json.skipSpace, hc]

/-- What a reader of values does on the texts of the values `js`. -/
def ReadsBack (read : List Char → Option (Json × List Char)) (js : List Json) : Prop :=
  ∀ j ∈ js, ∀ rest, Follows rest → read (chars j ++ rest) = some (j, rest)

theorem ReadsBack.tail {read : List Char → Option (Json × List Char)} {j : Json} {js : List Json}
    (h : ReadsBack read (j :: js)) : ReadsBack read js := by
  intro k hk
  exact h k (List.mem_cons_of_mem j hk)

theorem items_itemChars {read : List Char → Option (Json × List Char)} {js : List Json}
    (hread : ReadsBack read js) (hne : js ≠ []) {steps : Nat} (hsteps : js.length ≤ steps)
    (rest : List Char) : items read steps (itemChars js ++ ']' :: rest) = some (js, rest) := by
  induction js generalizing steps with
  | nil => exact absurd rfl hne
  | cons j js ih =>
      obtain ⟨steps, rfl⟩ : ∃ n, steps = n + 1 := ⟨steps - 1, by simp at hsteps; omega⟩
      cases js with
      | nil =>
          have hj := hread j List.mem_cons_self (']' :: rest) (.inr (.inl rfl))
          simp [items, itemChars, hj, skipSpace, isSpace]
      | cons k js =>
          have hj := hread j List.mem_cons_self (',' :: (itemChars (k :: js) ++ ']' :: rest))
            (.inl rfl)
          have htail := ih hread.tail (by simp) (Nat.le_of_succ_le_succ hsteps)
          simp only [itemChars, List.append_assoc, List.cons_append, items] at hj htail ⊢
          rw [hj]
          simp [skipSpace, isSpace, htail]

theorem member_quoted {read : List Char → Option (Json × List Char)} (name : String) {j : Json}
    {rest : List Char} (hread : read (chars j ++ rest) = some (j, rest)) :
    member read (quoted name ++ ':' :: (chars j ++ rest)) = some ((name, j), rest) := by
  rw [quoted_append]
  simp [member, skipSpace, isSpace, stringBody_flatMap_escape, hread]

theorem members_memberChars {read : List Char → Option (Json × List Char)}
    {ms : List (String × Json)} (hread : ReadsBack read (ms.map Prod.snd)) (hne : ms ≠ [])
    {steps : Nat} (hsteps : ms.length ≤ steps) (rest : List Char) :
    members read steps (memberChars ms ++ '\x7d' :: rest) = some (ms, rest) := by
  induction ms generalizing steps with
  | nil => exact absurd rfl hne
  | cons m ms ih =>
      obtain ⟨name, j⟩ := m
      obtain ⟨steps, rfl⟩ : ∃ n, steps = n + 1 := ⟨steps - 1, by simp at hsteps; omega⟩
      cases ms with
      | nil =>
          have hj := hread j List.mem_cons_self ('\x7d' :: rest) (.inr (.inr rfl))
          simp [members, memberChars, member_quoted name hj, skipSpace, isSpace]
      | cons m ms =>
          have hj := hread j List.mem_cons_self (',' :: (memberChars (m :: ms) ++ '\x7d' :: rest))
            (.inl rfl)
          have htail := ih hread.tail (by simp) (Nat.le_of_succ_le_succ hsteps)
          have hmember := member_quoted name hj
          simp only [memberChars, List.append_assoc, List.cons_append, members] at hmember htail ⊢
          rw [hmember]
          simp [skipSpace, isSpace, htail]

theorem length_le_itemChars {js : List Json} (h : ∀ j ∈ js, Opens (chars j)) :
    js.length ≤ (itemChars js).length := by
  induction js with
  | nil => exact Nat.zero_le _
  | cons j js ih =>
      obtain ⟨c, more, hc, -⟩ := h j List.mem_cons_self
      have htail := ih fun k hk => h k (List.mem_cons_of_mem j hk)
      cases js with
      | nil => simp [itemChars, hc]
      | cons k js => simp only [itemChars, List.length_append, List.length_cons] at htail ⊢; omega

theorem length_le_memberChars (ms : List (String × Json)) :
    ms.length ≤ (memberChars ms).length := by
  induction ms with
  | nil => exact Nat.zero_le _
  | cons m ms ih =>
      obtain ⟨name, j⟩ := m
      cases ms with
      | nil => simp [memberChars]; omega
      | cons m ms => simp only [memberChars, List.length_append, List.length_cons] at ih ⊢; omega

theorem opens_quoted (s : String) (rest : List Char) : Opens (quoted s ++ rest) := by
  rw [quoted_append]
  exact ⟨_, _, rfl, by decide, by decide, by decide⟩

theorem arrayBody_itemChars {read : List Char → Option (Json × List Char)} {js : List Json}
    (hread : ReadsBack read js) (hopens : ∀ j ∈ js, Opens (chars j)) (rest : List Char) :
    arrayBody read (itemChars js ++ ']' :: rest) = some (js, rest) := by
  cases js with
  | nil => rfl
  | cons j js =>
      have hlength := length_le_itemChars hopens
      have hopen : Opens (itemChars (j :: js) ++ ']' :: rest) := by
        have hj := hopens j List.mem_cons_self
        cases js with
        | nil => exact hj.append _
        | cons k js => exact (hj.append _).append _
      have hitems := items_itemChars hread (by simp)
        (Nat.le_trans hlength (show _ ≤ (itemChars (j :: js) ++ ']' :: rest).length + 1 by
          rw [List.length_append]; omega)) rest
      unfold arrayBody
      rw [hopen.skipSpace]
      obtain ⟨c, more, hc, -, hend, -⟩ := hopen
      rw [hc] at hitems ⊢
      split
      · simp_all
      · exact hitems

theorem objectBody_memberChars {read : List Char → Option (Json × List Char)}
    {ms : List (String × Json)} (hread : ReadsBack read (ms.map Prod.snd)) (rest : List Char) :
    objectBody read (memberChars ms ++ '\x7d' :: rest) = some (ms, rest) := by
  cases ms with
  | nil => rfl
  | cons m ms =>
      have hlength := length_le_memberChars (m :: ms)
      have hopen : Opens (memberChars (m :: ms) ++ '\x7d' :: rest) := by
        obtain ⟨name, j⟩ := m
        cases ms with
        | nil => simpa [memberChars] using opens_quoted name (':' :: (chars j ++ '\x7d' :: rest))
        | cons m ms =>
            simpa [memberChars] using
              opens_quoted name (':' :: (chars j ++ ',' :: (memberChars (m :: ms) ++ '\x7d' :: rest)))
      have hmembers := members_memberChars hread (by simp)
        (Nat.le_trans hlength (show _ ≤ (memberChars (m :: ms) ++ '\x7d' :: rest).length + 1 by
          rw [List.length_append]; omega)) rest
      unfold objectBody
      rw [hopen.skipSpace]
      obtain ⟨c, more, hc, -, -, hend⟩ := hopen
      rw [hc] at hmembers ⊢
      split
      · simp_all
      · exact hmembers

/-! Objects keep their members in order -/

/-- Whether members stand in the order of their names, each name once. -/
def Sorted (ms : List (String × Json)) : Prop :=
  (ms.map Prod.fst).Pairwise fun a b => precedes a.toList b.toList = true

theorem insert_of_last {name : String} {j : Json} {ms : List (String × Json)}
    (h : ∀ m ∈ ms, precedes m.1.toList name.toList = true) : insert name j ms = ms ++ [(name, j)] := by
  induction ms with
  | nil => rfl
  | cons m ms ih =>
      obtain ⟨k, v⟩ := m
      have hk : precedes k.toList name.toList = true := h (k, v) List.mem_cons_self
      have hirrefl : ¬ precedes k.toList k.toList = true := by simp [precedes_irrefl]
      have hne : name ≠ k := by
        rintro rfl
        exact hirrefl hk
      have hle : ¬ precedes name.toList k.toList = true := by
        intro hlt
        apply hirrefl
        exact precedes_trans hk hlt
      rw [Json.insert, if_neg hne, if_neg hle, ih fun m hm => h m (List.mem_cons_of_mem _ hm)]
      rfl

theorem foldl_insert_of_sorted (front ms : List (String × Json)) (h : Sorted (front ++ ms)) :
    ms.foldl (fun sorted m => insert m.1 m.2 sorted) front = front ++ ms := by
  induction ms generalizing front with
  | nil => exact (List.append_nil front).symm
  | cons m ms ih =>
      have hlast : ∀ k ∈ front, precedes k.1.toList m.1.toList = true := by
        obtain ⟨-, -, hacross⟩ := List.pairwise_append.1 (List.pairwise_map.1 h)
        intro k hk
        exact hacross k hk m List.mem_cons_self
      rw [List.foldl_cons, insert_of_last hlast, ih _ (by simpa using h)]
      simp

theorem ofMembers_of_sorted {ms : List (String × Json)} (h : Sorted ms) :
    ofMembers ms = .object ms := by
  rw [ofMembers, foldl_insert_of_sorted [] ms h, List.nil_append]

/-! Values -/

/-- Whether a value reads back from its text with `depth` containers inside each other at most. -/
inductive Readable : Nat → Json → Prop where
  | null {depth : Nat} : Readable depth .null
  | bool {depth : Nat} (value : Bool) : Readable depth (.bool value)
  | integer {depth : Nat} (value : WireInteger) : Readable depth (.integer value)
  | float {depth : Nat} {value : Float} (h : Recovers value) : Readable depth (.float value)
  | text {depth : Nat} (value : String) : Readable depth (.text value)
  | array {depth : Nat} {items : List Json} (h : ∀ j ∈ items, Readable depth j) :
      Readable (depth + 1) (.array items)
  | object {depth : Nat} {members : List (String × Json)} (hsorted : Sorted members)
      (h : ∀ m ∈ members, Readable depth m.2) : Readable (depth + 1) (.object members)

theorem opens_of_scalar {cs : List Char} {j : Json} (hplain : AllPlain cs)
    (h : scalar cs = some (j, [])) : Opens cs := by
  cases cs with
  | nil => simp [scalar, number, wholeDigits?, Decimal.splitDigits] at h
  | cons c more =>
      obtain ⟨hspace, -, -, hbracket, hbrace⟩ := isPlain_apart (hplain c List.mem_cons_self)
      exact ⟨c, more, rfl, hspace, hbracket, hbrace⟩

theorem allPlain_integer (n : WireInteger) : AllPlain (toString n.value).toList := by
  have hdigits := allPlain_digitText n.value.natAbs
  rw [toList_toString_int]
  split
  · exact .cons (by decide) hdigits
  · exact hdigits

theorem Readable.opens {depth : Nat} {j : Json} (h : Readable depth j) : Opens (chars j) := by
  cases h with
  | null => exact ⟨_, _, rfl, by decide, by decide, by decide⟩
  | bool value =>
      cases value with
      | true => exact ⟨_, _, rfl, by decide, by decide, by decide⟩
      | false => exact ⟨_, _, rfl, by decide, by decide, by decide⟩
  | integer value => exact opens_of_scalar (allPlain_integer value) (scalar_integer value)
  | @float _ value h => exact opens_of_scalar (allPlain_floatText value) h.scalar
  | text value => simpa [chars] using opens_quoted value []
  | array _ => exact ⟨_, _, rfl, by decide, by decide, by decide⟩
  | object _ _ => exact ⟨_, _, rfl, by decide, by decide, by decide⟩

theorem value_number {cs : List Char} {j : Json} (hj : IsNumber j) (hplain : AllPlain cs)
    (h : scalar cs = some (j, [])) (depth : Nat) {rest : List Char} (hrest : Follows rest) :
    value depth (cs ++ rest) = some (j, rest) := by
  obtain ⟨c, more, rfl, -⟩ := opens_of_scalar hplain h
  rw [value_eq_scalar]
  · exact (scalar_append hj hrest h).2
  · rintro _ ⟨⟩
    obtain ⟨hspace, hbracket, hbrace, -⟩ := isPlain_apart (hplain c List.mem_cons_self)
    exact ⟨hspace, hbracket, hbrace⟩

theorem value_chars {depth : Nat} {j : Json} (h : Readable depth j) {rest : List Char}
    (hrest : Follows rest) : value depth (chars j ++ rest) = some (j, rest) := by
  induction h generalizing rest with
  | null => exact value_eq_scalar _ (by rintro _ ⟨⟩; decide)
  | bool value =>
      cases value with
      | true => exact value_eq_scalar _ (by rintro _ ⟨⟩; decide)
      | false => exact value_eq_scalar _ (by rintro _ ⟨⟩; decide)
  | integer n =>
      have hnumber : IsNumber (.integer n) := trivial
      rw [chars]
      exact value_number hnumber (allPlain_integer n) (scalar_integer n) _ hrest
  | @float _ x h =>
      have hnumber : IsNumber (.float x) := trivial
      rw [chars]
      exact value_number hnumber (allPlain_floatText x) h.scalar _ hrest
  | text s =>
      rw [chars, value_eq_scalar, scalar_quoted]
      rintro _ ⟨⟩
      decide
  | array h ih =>
      have hbody := arrayBody_itemChars (fun j hj _ hrest => ih j hj hrest)
        (fun j hj => (h j hj).opens) rest
      simp only [chars, List.cons_append, List.append_assoc, List.nil_append]
      simp [value, skipSpace, isSpace, hbody]
  | @object depth members hsorted _ ih =>
      have hread : ReadsBack (value depth) (members.map Prod.snd) := by
        intro j hj rest hrest
        obtain ⟨m, hm, rfl⟩ := List.mem_map.1 hj
        exact ih m hm hrest
      have hbody := objectBody_memberChars hread rest
      simp only [chars, List.cons_append, List.append_assoc, List.nil_append]
      simp [value, skipSpace, isSpace, hbody, ofMembers_of_sorted hsorted]

/-- A value within the reader's depth reads back from its text. -/
theorem parse_render {j : Json} (h : Readable maxDepth j) : parse? j.render = some j := by
  have hvalue := value_chars h follows_nil
  rw [List.append_nil] at hvalue
  simp [parse?, parseWithin?, render, hvalue, skipSpace]

end CourierTrack.Proofs.JsonReadback
