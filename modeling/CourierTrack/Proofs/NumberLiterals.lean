import Mathlib.Logic.Basic
import CourierTrack.Decimal.Grammar
import CourierTrack.Decimal.Literal
/-!
A text is read as a float exactly if it is a decimal literal.
-/

namespace CourierTrack.Proofs.NumberLiterals

open CourierTrack.Decimal

variable {cs ds fs sign rest : List Char} {negative : Bool}

theorem areDigits_splitDigits (cs : List Char) : AreDigits (splitDigits cs).1 := by
  exact fun c hc => List.all_eq_true.1 List.all_takeWhile c hc

/-- Digits are split off as a whole if no further one stands behind them. -/
theorem splitDigits_append (hds : AreDigits ds) (hrest : ∀ c ∈ rest.head?, c.isDigit = false) :
    splitDigits (ds ++ rest) = (ds, rest) := by
  have htake : rest.takeWhile Char.isDigit = [] ∧ rest.dropWhile Char.isDigit = rest := by
    cases rest with
    | nil => exact ⟨rfl, rfl⟩
    | cons c rest => simp [hrest c rfl]
  rw [splitDigits, List.takeWhile_append_of_pos hds, List.dropWhile_append_of_pos hds, htake.1,
    htake.2, List.append_nil]

theorem isSign_splitSign (cs : List Char) :
    ∃ sign, IsSign sign ∧ cs = sign ++ (splitSign cs).2 := by
  unfold splitSign
  split
  · exact ⟨['-'], .minus, rfl⟩
  · exact ⟨['+'], .plus, rfl⟩
  · exact ⟨[], .none, rfl⟩

/-- A sign is split off as a whole if no further one stands behind it. -/
theorem splitSign_append (hsign : IsSign sign)
    (hrest : ∀ c ∈ rest.head?, c ≠ '+' ∧ c ≠ '-') : (splitSign (sign ++ rest)).2 = rest := by
  cases hsign with
  | plus => rfl
  | minus => rfl
  | none =>
      cases rest with
      | nil => rfl
      | cons c rest =>
          obtain ⟨hplus, hminus⟩ := hrest c rfl
          simp [splitSign, hplus, hminus]

theorem ne_sign_of_isDigit {c : Char} (h : c.isDigit = true) : c ≠ '+' ∧ c ≠ '-' := by
  constructor <;> rintro rfl <;> cases h

theorem head_of_areDigits (h : AreDigits ds) : ∀ c ∈ ds.head?, c ≠ '+' ∧ c ≠ '-' :=
  fun c hc => ne_sign_of_isDigit (h c (List.mem_of_mem_head? hc))

theorem isSome_named (cs : List Char) : (named? cs).isSome ↔ IsName cs := by
  unfold named? IsName
  split <;> simp_all

theorem isSome_exponent (cs : List Char) : (exponent? cs).isSome ↔ IsExponent cs := by
  constructor
  · intro h
    cases cs with
    | nil => exact .none
    | cons mark rest =>
        obtain ⟨sign, hsign, hrest⟩ := isSign_splitSign rest
        simp only [exponent?] at h
        split at h
        · rename_i hmark
          split at h
          · cases h
          · rename_i hdigits
            simp only [Bool.or_eq_true, not_or, List.isEmpty_iff, Bool.not_eq_true',
              Bool.not_eq_false, List.all_eq_true] at hdigits
            rw [hrest]
            exact .some hmark hsign hdigits.2 hdigits.1
        · cases h
  · intro h
    cases h with
    | none => rfl
    | @some mark sign ds hmark hsign hds hsome =>
        have hdigits : (ds.isEmpty || !ds.all Char.isDigit) = false := by
          rw [List.all_eq_true.2 hds, List.isEmpty_eq_false_iff.2 hsome]
          rfl
        have hsplit := splitSign_append hsign (head_of_areDigits hds)
        simp only [exponent?, hmark, hsplit, hdigits, if_true, Bool.false_eq_true, if_false]
        rfl

theorem head_of_isExponent (h : IsExponent cs) :
    ∀ c ∈ cs.head?, c.isDigit = false ∧ c ≠ '.' := by
  cases h with
  | none => exact nofun
  | some hmark =>
      rintro _ ⟨⟩
      rcases hmark with rfl | rfl <;> decide

/-- A point and the digits behind it, if there is one. -/
theorem unsigned_whole (hds : AreDigits ds) (hsome : ds ≠ [])
    (hrest : ∀ c ∈ rest.head?, c.isDigit = false ∧ c ≠ '.') :
    unsigned? negative (ds ++ rest) = (exponent? rest).map (ofParts negative ds []) := by
  have hsplit := splitDigits_append hds fun c hc => (hrest c hc).1
  have hempty : ds.isEmpty = false := List.isEmpty_eq_false_iff.2 hsome
  unfold unsigned?
  rw [hsplit]
  cases rest with
  | nil => simp [hempty]
  | cons c rest =>
      have hpoint : c ≠ '.' := (hrest c rfl).2
      simp [hempty, hpoint]

theorem unsigned_pointed (hds : AreDigits ds) (hfs : AreDigits fs) (hsome : ds ≠ [] ∨ fs ≠ [])
    (hrest : ∀ c ∈ rest.head?, c.isDigit = false) :
    unsigned? negative (ds ++ '.' :: (fs ++ rest)) =
      (exponent? rest).map (ofParts negative ds fs) := by
  have hsplit : splitDigits (ds ++ '.' :: (fs ++ rest)) = (ds, '.' :: (fs ++ rest)) := by
    apply splitDigits_append hds
    rintro _ ⟨⟩
    rfl
  have hempty : (ds.isEmpty && fs.isEmpty) = false := by
    rcases hsome with h | h <;> simp [h]
  simp [unsigned?, hsplit, splitDigits_append hfs hrest, hempty]

theorem isSome_unsigned (negative : Bool) (cs : List Char) :
    (unsigned? negative cs).isSome ↔
      ∃ significand exponent, IsSignificand significand ∧ IsExponent exponent ∧
        cs = significand ++ exponent := by
  constructor
  · intro h
    have hds := areDigits_splitDigits cs
    have hcs := Decimal.splitDigits_append cs
    unfold unsigned? at h
    generalize splitDigits cs = split at h hds hcs
    obtain ⟨ds, rest⟩ := split
    obtain rfl : ds ++ rest = cs := hcs
    simp only at h
    split at h
    · rename_i more
      have hfs := areDigits_splitDigits more
      have hmore := Decimal.splitDigits_append more
      split at h
      · cases h
      · rename_i hsome
        rw [Option.isSome_map, isSome_exponent] at h
        simp only [Bool.and_eq_true, List.isEmpty_iff, not_and_or] at hsome
        refine ⟨_, _, .pointed hds hfs hsome, h, ?_⟩
        rw [List.append_assoc, List.cons_append, hmore]
    · split at h
      · cases h
      · rename_i hsome
        rw [Option.isSome_map, isSome_exponent] at h
        exact ⟨_, _, .whole hds (by simpa using hsome), h, rfl⟩
  · rintro ⟨significand, exponent, hsignificand, hexponent, rfl⟩
    have hhead := head_of_isExponent hexponent
    rw [← isSome_exponent] at hexponent
    cases hsignificand with
    | whole hds hsome => rwa [unsigned_whole hds hsome hhead, Option.isSome_map]
    | pointed hds hfs hsome =>
        rw [List.append_assoc, List.cons_append,
          unsigned_pointed hds hfs hsome fun c hc => (hhead c hc).1, Option.isSome_map]
        exact hexponent

theorem head_of_isSignificand (h : IsSignificand cs) :
    ∀ c ∈ cs.head?, c ≠ '+' ∧ c ≠ '-' := by
  cases h with
  | whole hds hsome => exact head_of_areDigits hds
  | @pointed ds fs hds hfs hsome =>
    cases ds with
    | nil =>
        rintro _ ⟨⟩
        decide
    | cons d ds =>
        rintro _ ⟨⟩
        exact ne_sign_of_isDigit (hds d (List.mem_cons_self ..))

theorem isSignificand_ne_nil (h : IsSignificand cs) : cs ≠ [] := by
  cases h with
  | whole hds hsome => exact hsome
  | pointed hds hfs hsome => simp

theorem head_of_isName (h : IsName cs) : ∀ c ∈ cs.head?, c ≠ '+' ∧ c ≠ '-' := by
  cases cs with
  | nil => exact nofun
  | cons c cs =>
      rintro _ ⟨⟩
      have hlower : c.toLower = 'i' ∨ c.toLower = 'n' := by
        simp only [IsName, List.map_cons, List.mem_cons, List.not_mem_nil, or_false,
          ← String.toList_inj, String.toList_ofList] at h
        rcases h with h | h | h
        · exact .inl (List.cons.inj h).1
        · exact .inl (List.cons.inj h).1
        · exact .inr (List.cons.inj h).1
      constructor <;> rintro rfl <;> revert hlower <;> decide

theorem isSome_float_split (cs : List Char) :
    (float? cs).isSome ↔ IsName (splitSign cs).2 ∨
      ∃ significand exponent, IsSignificand significand ∧ IsExponent exponent ∧
        (splitSign cs).2 = significand ++ exponent := by
  rw [← isSome_named, ← isSome_unsigned (splitSign cs).1]
  unfold float?
  cases hname : named? (splitSign cs).2 <;> simp [hname]

theorem isSome_float (cs : List Char) : (float? cs).isSome ↔ IsLiteral cs := by
  rw [isSome_float_split]
  constructor
  · obtain ⟨sign, hsign, hcs⟩ := isSign_splitSign cs
    rintro (hname | ⟨significand, exponent, hsignificand, hexponent, hrest⟩)
    · rw [hcs]
      exact .name hsign hname
    · rw [hcs, hrest]
      exact .number hsign hsignificand hexponent
  · intro h
    cases h with
    | name hsign hname =>
        rw [splitSign_append hsign (head_of_isName hname)]
        exact .inl hname
    | @number sign significand exponent hsign hsignificand hexponent =>
        have hhead : ∀ c ∈ (significand ++ exponent).head?, c ≠ '+' ∧ c ≠ '-' := by
          obtain ⟨c, cs, hcons⟩ := List.exists_cons_of_ne_nil (isSignificand_ne_nil hsignificand)
          have hchar := head_of_isSignificand hsignificand
          rw [hcons] at hchar ⊢
          exact hchar
        rw [splitSign_append hsign hhead]
        exact .inr ⟨_, _, hsignificand, hexponent, rfl⟩

end CourierTrack.Proofs.NumberLiterals
