import CourierTrack.Json.Reader
import CourierTrack.Json.Writer
/-!
Numbers read back from their own texts, whatever stands behind them in an array or an object. That a
float does is an assumption on the float; the rest is proved.
-/

namespace CourierTrack.Proofs.JsonNumbers

open CourierTrack.Json

/-- Whether a text is over or goes on with what may stand behind a value. -/
def Follows : List Char → Prop
  | [] => True
  | c :: _ => c = ',' ∨ c = ']' ∨ c = '\x7d'

theorem follows_nil : Follows [] := trivial

theorem Follows.not_digit {c : Char} {rest : List Char} (h : Follows (c :: rest)) :
    c.isDigit = false := by
  rcases h with rfl | rfl | rfl <;> decide

/-! Readers that stop where a value ends -/

/-- What a reader takes off the front of a text it takes as well if the text goes on. -/
structure Local {α : Type} (read : List Char → Option (α × List Char)) : Prop where
  suffix : ∀ cs a left, read cs = some (a, left) → left <:+ cs
  append : ∀ cs a left rest, Follows rest → read cs = some (a, left) →
    read (cs ++ rest) = some (a, left ++ rest)

theorem Local.pure {α : Type} (a : α) : Local fun cs => some (a, cs) where
  suffix := by
    rintro cs _ left ⟨⟩
    exact List.suffix_rfl
  append := by
    rintro cs _ left rest _ ⟨⟩
    rfl

theorem Local.none {α : Type} : Local fun _ => (Option.none : Option (α × List Char)) where
  suffix := by simp
  append := by simp

theorem Local.bind {α β : Type} {first : List Char → Option (α × List Char)}
    {next : α → List Char → Option (β × List Char)} (hfirst : Local first)
    (hnext : ∀ a, Local (next a)) :
    Local fun cs => (first cs).bind fun r => next r.1 r.2 where
  suffix := by
    intro cs b left h
    obtain ⟨⟨a, middle⟩, ha, hb⟩ := Option.bind_eq_some_iff.1 h
    exact ((hnext a).suffix _ _ _ hb).trans (hfirst.suffix _ _ _ ha)
  append := by
    intro cs b left rest hrest h
    obtain ⟨⟨a, middle⟩, ha, hb⟩ := Option.bind_eq_some_iff.1 h
    rw [hfirst.append _ _ _ _ hrest ha]
    exact (hnext a).append _ _ _ _ hrest hb

theorem splitDigits_append {cs rest : List Char} (h : Follows rest) :
    Decimal.splitDigits (cs ++ rest) =
      ((Decimal.splitDigits cs).1, (Decimal.splitDigits cs).2 ++ rest) := by
  induction cs with
  | nil =>
      cases rest with
      | nil => rfl
      | cons c rest => simp [Decimal.splitDigits, h.not_digit]
  | cons c cs ih =>
      simp only [Decimal.splitDigits, Prod.mk.injEq] at ih ⊢
      by_cases hc : c.isDigit = true
      · simp [hc, ih.1, ih.2]
      · simp [hc]

theorem splitDigits_suffix (cs : List Char) : (Decimal.splitDigits cs).2 <:+ cs :=
  ⟨_, Decimal.splitDigits_append cs⟩

theorem local_wholeDigits : Local wholeDigits? where
  suffix := by
    intro cs digits left h
    unfold wholeDigits? at h
    split at h
    · simp at h
    · simp at h
    · rename_i hsplit
      obtain ⟨rfl, rfl⟩ : _ = digits ∧ _ = left := by simpa using h
      have hsuffix := splitDigits_suffix cs
      rwa [hsplit] at hsuffix
  append := by
    intro cs digits left rest hrest h
    unfold wholeDigits? at h ⊢
    rw [splitDigits_append hrest]
    generalize Decimal.splitDigits cs = split at h ⊢
    obtain ⟨front, back⟩ := split
    split at h
    · simp at h
    · simp at h
    · simp_all

theorem local_fraction : Local fraction? where
  suffix := by
    intro cs fraction left h
    unfold fraction? at h
    split at h
    · rename_i more
      split at h
      · simp at h
      · rename_i hsplit
        obtain ⟨rfl, rfl⟩ : _ = fraction ∧ _ = left := by simpa using h
        have hsuffix := splitDigits_suffix more
        rw [hsplit] at hsuffix
        exact hsuffix.trans (List.suffix_cons _ _)
    · obtain ⟨rfl, rfl⟩ : _ = fraction ∧ _ = left := by simpa using h
      exact List.suffix_rfl
  append := by
    intro cs fraction left rest hrest h
    cases cs with
    | nil =>
        obtain ⟨rfl, rfl⟩ : none = fraction ∧ [] = left := by simpa [fraction?] using h
        cases rest with
        | nil => rfl
        | cons c rest => rcases hrest with rfl | rfl | rfl <;> rfl
    | cons c more =>
        by_cases hc : c = '.'
        · subst hc
          simp only [fraction?, List.cons_append, splitDigits_append hrest] at h ⊢
          generalize Decimal.splitDigits more = split at h ⊢
          obtain ⟨digits, back⟩ := split
          cases digits with
          | nil => simp at h
          | cons d digits => simp_all
        · obtain ⟨rfl, rfl⟩ : none = fraction ∧ c :: more = left := by
            simpa [fraction?, hc] using h
          simp [fraction?, hc]

theorem splitSign_append {cs rest : List Char} (h : cs ≠ []) :
    Decimal.splitSign (cs ++ rest) =
      ((Decimal.splitSign cs).1, (Decimal.splitSign cs).2 ++ rest) := by
  cases cs with
  | nil => exact absurd rfl h
  | cons c cs =>
      by_cases hminus : c = '-'
      · subst hminus
        rfl
      · by_cases hplus : c = '+'
        · subst hplus
          rfl
        · simp [Decimal.splitSign, hminus, hplus]

theorem splitSign_suffix (cs : List Char) : (Decimal.splitSign cs).2 <:+ cs := by
  unfold Decimal.splitSign
  split
  · exact List.suffix_cons _ _
  · exact List.suffix_cons _ _
  · exact List.suffix_rfl

theorem local_scale : Local scale? where
  suffix := by
    intro cs scale left h
    unfold scale? at h
    split at h
    · obtain ⟨rfl, rfl⟩ : none = scale ∧ [] = left := by simpa using h
      exact List.suffix_rfl
    · rename_i c more
      split at h
      · have hsign := splitSign_suffix more
        have hdigits := splitDigits_suffix (Decimal.splitSign more).2
        simp only at h
        split at h
        · simp at h
        · rename_i hsplit
          obtain ⟨rfl, rfl⟩ : _ = scale ∧ _ = left := by simpa using h
          rw [hsplit] at hdigits
          exact (hdigits.trans hsign).trans (List.suffix_cons _ _)
      · obtain ⟨rfl, rfl⟩ : none = scale ∧ c :: more = left := by simpa using h
        exact List.suffix_rfl
  append := by
    intro cs scale left rest hrest h
    cases cs with
    | nil =>
        obtain ⟨rfl, rfl⟩ : none = scale ∧ [] = left := by simpa [scale?] using h
        cases rest with
        | nil => rfl
        | cons c rest => rcases hrest with rfl | rfl | rfl <;> rfl
    | cons c more =>
        simp only [scale?, List.cons_append] at h ⊢
        split at h
        · rename_i hmark
          -- An exponent mark alone is no number.
          have hmore : more ≠ [] := by
            rintro rfl
            simp [Decimal.splitSign, Decimal.splitDigits] at h
          rw [if_pos hmark, splitSign_append hmore]
          simp only [splitDigits_append hrest] at h ⊢
          generalize Decimal.splitDigits (Decimal.splitSign more).2 = split at h ⊢
          obtain ⟨digits, back⟩ := split
          cases digits with
          | nil => simp at h
          | cons d digits => simp_all
        · rename_i hmark
          obtain ⟨rfl, rfl⟩ : none = scale ∧ c :: more = left := by simpa using h
          rw [if_neg hmark]
          rfl

/-- The value of a number whose parts were read. -/
def assembled (negative : Bool) (whole : List Char) (fraction : Option (List Char))
    (scale : Option Int) : Option Json :=
  if fraction.isNone && scale.isNone then wholeNumber negative whole
  else
    let x := Decimal.ofParts negative whole (fraction.getD []) (scale.getD 0)
    if x.isFinite then some (.float x) else none

theorem number_eq (negative : Bool) (cs : List Char) :
    number negative cs =
      (wholeDigits? cs).bind fun whole => (fraction? whole.2).bind fun fraction =>
        (scale? fraction.2).bind fun scale =>
          (assembled negative whole.1 fraction.1 scale.1).map fun j => (j, scale.2) := by
  unfold number assembled
  simp only [Option.bind_eq_bind, Option.pure_def]
  congr 1
  funext whole
  congr 1
  funext fraction
  congr 1
  funext scale
  split
  · cases wholeNumber negative whole.1 <;> rfl
  · split
    · rfl
    · rfl

theorem local_number (negative : Bool) : Local (number negative) := by
  rw [show number negative = _ from funext (number_eq negative)]
  have hassembled (whole : List Char) (fraction : Option (List Char)) (scale : Option Int) :
      Local fun cs => (assembled negative whole fraction scale).map fun j => (j, cs) := by
    cases assembled negative whole fraction scale with
    | none => exact .none
    | some j => exact .pure j
  have hscale (whole : List Char) (fraction : Option (List Char)) :=
    local_scale.bind (hassembled whole fraction)
  have hfraction (whole : List Char) := local_fraction.bind (hscale whole)
  exact local_wholeDigits.bind hfraction

/-! Whole numbers -/

theorem splitDigits_of_all {cs : List Char} (h : ∀ c ∈ cs, c.isDigit = true) :
    Decimal.splitDigits cs = (cs, []) := by
  induction cs with
  | nil => rfl
  | cons c cs ih =>
      have htail := ih fun d hd => h d (List.mem_cons_of_mem c hd)
      simp only [Decimal.splitDigits, Prod.mk.injEq] at htail ⊢
      simp [h c List.mem_cons_self, htail.1, htail.2]

theorem isDigit_of_mem_toDigits {n : Nat} {c : Char} (h : c ∈ Nat.toDigits 10 n) :
    c.isDigit = true :=
  Nat.isDigit_of_mem_toDigits (by decide) (by decide) h

theorem head_toDigits_ne_zero (n : Nat) (h : n ≠ 0) : (Nat.toDigits 10 n).head? ≠ some '0' := by
  induction n using Nat.strongRecOn with
  | ind n ih =>
      by_cases hn : n < 10
      · rw [Nat.toDigits_of_lt_base hn]
        have hdigits : ∀ m, m < 10 → m ≠ 0 → [m.digitChar].head? ≠ some '0' := by decide
        exact hdigits n hn h
      · rw [Nat.toDigits_of_base_le (by decide) (Nat.le_of_not_lt hn), List.head?_append]
        have hfront := ih (n / 10) (by omega) (by omega)
        cases hdigits : Nat.toDigits 10 (n / 10) with
        | nil => exact absurd hdigits Nat.toDigits_ne_nil
        | cons d digits => simpa [hdigits] using hfront

theorem wholeDigits_toDigits (n : Nat) :
    wholeDigits? (Nat.toDigits 10 n) = some (Nat.toDigits 10 n, []) := by
  rw [wholeDigits?, splitDigits_of_all fun c hc => isDigit_of_mem_toDigits hc]
  cases hdigits : Nat.toDigits 10 n with
  | nil => exact absurd hdigits Nat.toDigits_ne_nil
  | cons d digits =>
      by_cases hzero : n = 0
      · subst hzero
        obtain ⟨rfl, rfl⟩ : '0' = d ∧ [] = digits := by simpa using hdigits
        rfl
      · have hhead := head_toDigits_ne_zero n hzero
        rw [hdigits, List.head?_cons, ne_eq, Option.some.injEq] at hhead
        simp [hhead]

theorem digitsValue_toDigits (n : Nat) : Decimal.digitsValue (Nat.toDigits 10 n) = n := by
  have hfold := @Nat.ofDigitChars_ten_toDigits n
  rw [Nat.ofDigitChars_eq_foldl] at hfold
  simpa [Decimal.digitsValue, Nat.mul_comm] using hfold

theorem number_toDigits (negative : Bool) (n : Nat) :
    number negative (Nat.toDigits 10 n) =
      (wholeNumber negative (Nat.toDigits 10 n)).map fun j => (j, []) := by
  rw [number_eq, wholeDigits_toDigits]
  rfl

theorem head_isDigit_of_number {negative : Bool} {cs : List Char} {r : Json × List Char}
    (h : number negative cs = some r) : ∃ c more, cs = c :: more ∧ c.isDigit = true := by
  rw [number_eq] at h
  obtain ⟨whole, hwhole, -⟩ := Option.bind_eq_some_iff.1 h
  cases cs with
  | nil => simp [wholeDigits?, Decimal.splitDigits] at hwhole
  | cons c more =>
      refine ⟨c, more, rfl, ?_⟩
      cases hc : c.isDigit with
      | true => rfl
      | false => simp [wholeDigits?, Decimal.splitDigits, hc] at hwhole

theorem scalar_of_isDigit {c : Char} (h : c.isDigit = true) (more : List Char) :
    scalar (c :: more) = number false (c :: more) := by
  unfold scalar
  split <;> simp_all [Char.isDigit]

def IsNumber : Json → Prop
  | .integer _ => True
  | .float _ => True
  | _ => False

theorem scalar_append {cs left rest : List Char} {j : Json} (hj : IsNumber j)
    (hrest : Follows rest) (h : scalar cs = some (j, left)) :
    left <:+ cs ∧ scalar (cs ++ rest) = some (j, left ++ rest) := by
  unfold scalar at h
  split at h
  · simp at h
    exact absurd hj (by simp [← h.1, IsNumber])
  · simp at h
    exact absurd hj (by simp [← h.1, IsNumber])
  · simp at h
    exact absurd hj (by simp [← h.1, IsNumber])
  · obtain ⟨r, -, hr⟩ := Option.map_eq_some_iff.1 h
    simp at hr
    exact absurd hj (by simp [← hr.1, IsNumber])
  · exact ⟨((local_number true).suffix _ _ _ h).trans (List.suffix_cons _ _),
      (local_number true).append _ _ _ _ hrest h⟩
  · obtain ⟨c, more, rfl, hc⟩ := head_isDigit_of_number h
    refine ⟨(local_number false).suffix _ _ _ h, ?_⟩
    rw [List.cons_append, scalar_of_isDigit hc, ← List.cons_append]
    exact (local_number false).append _ _ _ _ hrest h

theorem wholeNumber_integer (n : WireInteger) :
    wholeNumber (n.value < 0) (Nat.toDigits 10 n.value.natAbs) = some (.integer n) := by
  have hsigned : (if n.value < 0 then -(n.value.natAbs : Int) else n.value.natAbs) = n.value := by
    split <;> omega
  unfold wholeNumber
  rw [digitsValue_toDigits]
  simp only [decide_eq_true_eq, hsigned, WireInteger.ofInt?_value]
  rw [if_neg]
  simp only [Bool.and_eq_true, decide_eq_true_eq, beq_iff_eq]
  omega

theorem toList_toString_int (n : Int) :
    (toString n).toList =
      if n < 0 then '-' :: Nat.toDigits 10 n.natAbs else Nat.toDigits 10 n.natAbs := by
  cases n with
  | ofNat n =>
      have hn : ¬ Int.ofNat n < 0 := Int.not_lt.2 (Int.natCast_nonneg n)
      rw [if_neg hn]
      exact Nat.toList_repr
  | negSucc n =>
      rw [if_pos (Int.negSucc_lt_zero n)]
      change ("-" ++ (n + 1).repr).toList = _
      rw [String.toList_append, Nat.toList_repr]
      rfl

theorem scalar_integer (n : WireInteger) :
    scalar (toString n.value).toList = some (.integer n, []) := by
  have hnumber := number_toDigits (n.value < 0) n.value.natAbs
  rw [wholeNumber_integer, Option.map_some] at hnumber
  rw [toList_toString_int]
  split
  · rename_i h
    rw [decide_eq_true h] at hnumber
    exact hnumber
  · rename_i h
    rw [decide_eq_false h] at hnumber
    obtain ⟨c, more, hcs, hc⟩ := head_isDigit_of_number hnumber
    rw [hcs] at hnumber ⊢
    rw [scalar_of_isDigit hc, hnumber]

/-! Floats -/

/-- What the assumption on writing and reading floats says of one float. -/
def Recovers (x : Float) : Prop := parse? (Json.float x).render = some (.float x)

/-- The characters of numbers and of the words that stand for them. -/
def isPlain (c : Char) : Bool := c.isAlphanum || c == '-' || c == '+' || c == '.'

theorem isPlain_apart {c : Char} (h : isPlain c = true) :
    isSpace c = false ∧ c ≠ '[' ∧ c ≠ '\x7b' ∧ c ≠ ']' ∧ c ≠ '\x7d' := by
  refine ⟨?_, ?_, ?_, ?_, ?_⟩
  · cases hspace : isSpace c with
    | false => rfl
    | true =>
        simp only [isSpace, Bool.or_eq_true, decide_eq_true_eq] at hspace
        rcases hspace with ((rfl | rfl) | rfl) | rfl <;> exact absurd h (by decide)
  · rintro rfl
    exact absurd h (by decide)
  · rintro rfl
    exact absurd h (by decide)
  · rintro rfl
    exact absurd h (by decide)
  · rintro rfl
    exact absurd h (by decide)

theorem isPlain_of_isDigit {c : Char} (h : c.isDigit = true) : isPlain c = true := by
  simp [isPlain, Char.isAlphanum, h]

def AllPlain (cs : List Char) : Prop := ∀ c ∈ cs, isPlain c = true

theorem allPlain_of_all {cs : List Char} (h : cs.all isPlain = true) : AllPlain cs :=
  List.all_eq_true.1 h

theorem AllPlain.append {cs ds : List Char} (hcs : AllPlain cs) (hds : AllPlain ds) :
    AllPlain (cs ++ ds) := by
  intro c hc
  rcases List.mem_append.1 hc with h | h
  · exact hcs c h
  · exact hds c h

theorem AllPlain.cons {c : Char} {cs : List Char} (hc : isPlain c = true) (hcs : AllPlain cs) :
    AllPlain (c :: cs) := by
  intro d hd
  rcases List.mem_cons.1 hd with rfl | h
  · exact hc
  · exact hcs d h

theorem allPlain_digitText (n : Nat) : AllPlain (Decimal.digitText n) := by
  intro c hc
  apply isPlain_of_isDigit
  exact isDigit_of_mem_toDigits hc

theorem allPlain_zeros (n : Nat) : AllPlain (Decimal.zeros n) := by
  intro c hc
  obtain rfl : c = '0' := List.eq_of_mem_replicate hc
  decide

theorem allPlain_pointed {digits : List Char} (h : AllPlain digits) (places : Nat) :
    AllPlain (Decimal.pointed digits places) := by
  have hpadded := (allPlain_zeros (places + 1 - digits.length)).append h
  apply AllPlain.append
  · intro c hc
    exact hpadded c (List.mem_of_mem_take hc)
  · refine .cons (by decide) ?_
    intro c hc
    exact hpadded c (List.mem_of_mem_drop hc)

theorem allPlain_positionalText (l : Decimal.Layout) (s : Decimal.Scientific) :
    AllPlain (l.positionalText s) := by
  have hdigits := allPlain_digitText s.digits
  unfold Decimal.Layout.positionalText
  split
  · exact allPlain_pointed hdigits _
  · have hwhole : AllPlain (Decimal.digitText s.digits ++
        if s.digits = 0 then [] else Decimal.zeros s.exponent.toNat) := by
      refine hdigits.append ?_
      split
      · exact fun _ hc => absurd hc List.not_mem_nil
      · exact allPlain_zeros _
    simp only
    split
    · exact hwhole.append (allPlain_of_all rfl)
    · exact hwhole

theorem allPlain_markedText (s : Decimal.Scientific) : AllPlain (Decimal.markedText s) := by
  have hdigits := allPlain_digitText s.digits
  refine AllPlain.append ?_ (.cons (by decide) (.cons ?_ (allPlain_digitText _)))
  · split
    · exact fun _ hc => absurd hc List.not_mem_nil
    · rename_i d hd
      exact hd ▸ hdigits
    · rename_i d rest _ hd
      rw [hd] at hdigits
      refine .cons (hdigits d List.mem_cons_self) (.cons (by decide) ?_)
      intro c hc
      exact hdigits c (List.mem_cons_of_mem d hc)
  · split <;> decide

theorem allPlain_format (l : Decimal.Layout) (x : Float) : AllPlain (l.format x).toList := by
  have hsign : AllPlain (Decimal.signText x) := by
    unfold Decimal.signText
    split <;> exact allPlain_of_all rfl
  unfold Decimal.Layout.format
  split
  · exact allPlain_of_all rfl
  · rw [String.toList_ofList]
    exact hsign.append (allPlain_of_all rfl)
  · rw [String.toList_ofList]
    refine hsign.append ?_
    unfold Decimal.Layout.digits
    split
    · exact allPlain_positionalText l _
    · exact allPlain_markedText _

theorem allPlain_floatText (x : Float) : AllPlain (floatText x) := by
  unfold floatText
  split
  · exact allPlain_format _ x
  · exact allPlain_of_all rfl

theorem value_eq_scalar (depth : Nat) {cs : List Char}
    (h : ∀ c ∈ cs.head?, isSpace c = false ∧ c ≠ '[' ∧ c ≠ '\x7b') :
    value depth cs = scalar cs := by
  have hskip : skipSpace cs = cs := by
    cases cs with
    | nil => rfl
    | cons c cs => simp [skipSpace, (h c rfl).1]
  cases depth with
  | zero => rw [value, hskip]
  | succ depth =>
      rw [value, hskip]
      split
      · exact absurd rfl (h _ rfl).2.1
      · exact absurd rfl (h _ rfl).2.2
      · rfl

theorem skipSpace_of_allPlain {cs : List Char} (h : AllPlain cs) : skipSpace cs = cs := by
  cases cs with
  | nil => rfl
  | cons c cs => simp [skipSpace, (isPlain_apart (h c List.mem_cons_self)).1]

theorem Recovers.scalar {x : Float} (h : Recovers x) :
    scalar (floatText x) = some (.float x, []) := by
  have hplain := allPlain_floatText x
  have hvalue : value maxDepth (floatText x) = Json.scalar (floatText x) := by
    apply value_eq_scalar
    intro c hc
    obtain ⟨hspace, hbracket, hbrace, -⟩ := isPlain_apart (hplain c (List.mem_of_mem_head? hc))
    exact ⟨hspace, hbracket, hbrace⟩
  unfold Recovers parse? parseWithin? render at h
  rw [String.toList_ofList, show chars (.float x) = floatText x by simp [chars], hvalue] at h
  split at h
  · rename_i j left hscalar
    split at h
    · rename_i hleft
      obtain rfl : j = .float x := by simpa using h
      -- What is left is part of the text, so it holds no space to skip.
      have hnumber : IsNumber (.float x) := trivial
      have hsuffix := (scalar_append hnumber follows_nil hscalar).1
      have hnone : skipSpace left = left := by
        apply skipSpace_of_allPlain
        intro c hc
        exact hplain c (hsuffix.subset hc)
      rw [hnone, List.isEmpty_iff] at hleft
      rw [hscalar, hleft]
    · simp at h
  · simp at h

end CourierTrack.Proofs.JsonNumbers
