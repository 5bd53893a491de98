import Mathlib
import CourierTrack.Json.Basic
/-!
The whole numbers that a frame can carry are finite as floats. A float is finite if its exponent is
small enough, and rounding a number of few bits cannot raise the exponent far; the bounds are rough.
-/

namespace CourierTrack.Proofs.FloatRange

open Float.Model
open Float.Model.UnpackedFloat

/-- Whether a float is a number with an exponent up to a bound. -/
inductive AtMost (bound : Int) : UnpackedFloat → Prop where
  | zero (s : Sign) : AtMost bound (.zero s)
  | finite (s : Sign) {m : Nat} {e : Int} (hm : 0 < m) (h : e ≤ bound) :
      AtMost bound (.finite s m e hm)

variable {bound : Int} {u : UnpackedFloat} {m : Nat} {e : Int}

theorem AtMost.isFinite (h : AtMost bound u) : u.isFinite = true := by
  cases h with
  | zero _ => rfl
  | finite _ _ _ => rfl

/-! Packing -/

theorem atMost_unpack {b : BitVec 64} (hfield : @unpackExponent .binary64 b ≠ -1#11)
    (hlower : -1074 ≤ bound)
    (hexponent : ((@unpackExponent .binary64 b).toNat : Int) - 1075 ≤ bound) :
    AtMost bound (unpack .binary64 b) := by
  have hbias : ((Format.exponentBias .binary64 : Nat) : Int) = 1023 := rfl
  unfold UnpackedFloat.unpack
  simp only [if_neg hfield, hbias]
  split
  · rename_i hzero
    split
    · exact .zero _
    · rw [hzero]
      exact .finite _ _ hlower
  · apply AtMost.finite
    change ((@unpackExponent .binary64 b).toNat : Int) - (1023 + 52) ≤ bound
    omega

theorem atMost_of_isFinite {b : BitVec 64} (h : (unpack .binary64 b).isFinite = true) :
    AtMost 971 (unpack .binary64 b) := by
  have hfield : @unpackExponent .binary64 b ≠ -1#11 := by
    intro heq
    unfold UnpackedFloat.unpack at h
    simp only [if_pos heq] at h
    split at h <;> cases h
  have hlt := (@unpackExponent .binary64 b).isLt
  have hne : (@unpackExponent .binary64 b).toNat ≠ 2047 := by
    intro heq
    exact hfield (BitVec.eq_of_toNat_eq heq)
  apply atMost_unpack hfield (by decide)
  simp only [Nat.reducePow] at hlt
  omega

theorem mantissa_lt {b : BitVec 64} {s : Sign} {hm : 0 < m}
    (h : unpack .binary64 b = .finite s m e hm) : m < 2 ^ 53 := by
  unfold UnpackedFloat.unpack at h
  simp only at h
  split at h
  · split at h <;> cases h
  · split at h
    · split at h
      · cases h
      · cases h
        have hlt := (@unpackMantissa .binary64 b).isLt
        exact Nat.lt_trans hlt (by decide)
    · cases h
      exact (1#1 ++ @unpackMantissa .binary64 b).isLt

theorem atMost_pack (h : AtMost bound u) (hlower : -1074 ≤ bound) (hupper : bound ≤ 971) :
    AtMost bound (unpack .binary64 (UnpackedFloat.pack .binary64 u)) := by
  have hcomponents (sign : Sign) (exponent : BitVec 11) (mantissa : BitVec 52)
      (hfield : exponent ≠ -1#11) (hexponent : (exponent.toNat : Int) - 1075 ≤ bound) :
      AtMost bound (unpack .binary64 (packComponents .binary64 sign exponent mantissa)) := by
    apply atMost_unpack
    · rwa [unpackExponent_packComponents]
    · exact hlower
    · rwa [unpackExponent_packComponents]
  have hsmall : ((0#11 : BitVec 11).toNat : Int) - 1075 ≤ bound :=
    Int.le_trans (by decide) hlower
  cases h with
  | zero s => exact hcomponents s 0 0 (by decide) hsmall
  | @finite s m e hm h =>
      have hbiased : (e + (Format.exponentBias .binary64 : Nat) + (52 : Nat)).toNat =
          (e + 1075).toNat := by
        change (e + (1023 : Nat) + (52 : Nat)).toNat = _
        omega
      have hroom : ¬ 2 ^ 11 ≤ (e + 1075).toNat + 1 := by omega
      unfold UnpackedFloat.pack
      simp only [hbiased, if_neg hroom]
      split
      · have hnat : (BitVec.ofNat 11 (e + 1075).toNat).toNat = (e + 1075).toNat := by
          rw [BitVec.toNat_ofNat]
          exact Nat.mod_eq_of_lt (by omega)
        refine hcomponents s _ _ ?_ ?_
        · intro heq
          have hmax : (e + 1075).toNat = 2047 := hnat.symm.trans (congrArg BitVec.toNat heq)
          omega
        · rw [hnat]
          omega
      · exact hcomponents s 0 _ (by decide) hsmall

/-! Rounding -/

theorem mantissa_shiftRight_le (em : ExtendedMantissa) (n : Nat) :
    (em >>> n).mantissa ≤ em.mantissa := by
  change (Nat.repeat ExtendedMantissa.shiftRightOne n em).mantissa ≤ em.mantissa
  induction n with
  | zero => exact Nat.le_refl _
  | succ n ih => exact Nat.le_trans (Nat.div_le_self _ 2) ih

theorem roundedMantissa_le (em : ExtendedMantissa) : em.roundedMantissa ≤ em.mantissa + 1 := by
  unfold ExtendedMantissa.roundedMantissa Accuracy.roundToNearestEven
  split <;> omega

theorem mantissa_ofMantissaAndAccuracy (m : Nat) (accuracy : Accuracy) :
    (ExtendedMantissa.ofMantissaAndAccuracy m accuracy).mantissa = m := by
  unfold ExtendedMantissa.ofMantissaAndAccuracy
  split <;> rfl

theorem log2_le_of_lt {bits : Nat} (h : m < 2 ^ bits) : m.log2 ≤ bits := by
  by_cases hm : m = 0
  · subst hm
    exact Nat.zero_le bits
  · exact Nat.le_of_lt ((Nat.log2_lt hm).2 h)

/-- Shifting keeps a number in its bits, and raises its exponent by as many at most. -/
theorem shiftToTargetExponent_le {bits : Nat} (hm : m < 2 ^ bits) (hbound : 0 ≤ bound)
    (he : e ≤ bound) (accuracy : Accuracy) :
    (shiftToTargetExponent .binary64 m e accuracy).1.mantissa < 2 ^ bits ∧
      (shiftToTargetExponent .binary64 m e accuracy).2 ≤ bound + bits := by
  constructor
  · have hshift := mantissa_shiftRight_le (ExtendedMantissa.ofMantissaAndAccuracy m accuracy)
      ((Format.targetExponent .binary64 (totalExponent m e)) - e).toNat
    rw [mantissa_ofMantissaAndAccuracy] at hshift
    exact Nat.lt_of_le_of_lt hshift hm
  · have hlog := log2_le_of_lt hm
    change e + ((max ((m.log2 : Int) + 1 + e - (53 : Nat)) (-1074) - e).toNat : Int) ≤ bound + bits
    omega

theorem atMost_roundWithAccuracy {bits : Nat} (hm : m < 2 ^ bits) (hbound : 0 ≤ bound)
    (he : e ≤ bound) (s : Sign) (accuracy : Accuracy) :
    AtMost (bound + 2 * bits + 1) (roundWithAccuracy .binary64 s m e accuracy) := by
  unfold roundWithAccuracy
  obtain ⟨hmantissa, hexponent⟩ := shiftToTargetExponent_le hm hbound he accuracy
  generalize shiftToTargetExponent .binary64 m e accuracy = shifted at hmantissa hexponent
  obtain ⟨em, e'⟩ := shifted
  have hrounded : em.roundedMantissa < 2 ^ (bits + 1) := by
    have hle := roundedMantissa_le em
    have hpow : 2 ^ (bits + 1) = 2 * 2 ^ bits := by omega
    simp only at hmantissa
    omega
  have hagain := (shiftToTargetExponent_le hrounded (by omega) hexponent .exact).2
  simp only
  split
  · exact .zero _
  · apply AtMost.finite
    refine Int.le_trans hagain ?_
    omega

/-! Whole numbers -/

theorem atMost_ofNat {n bits : Nat} (hn : n < 2 ^ bits) :
    AtMost (2 * (bits + 52) + 1) (UnpackedFloat.ofNat .binary64 n) := by
  unfold UnpackedFloat.ofNat UnpackedFloat.ofInt UnpackedFloat.normalize
  split
  · rename_i hlt
    rw [Int.compare_eq_lt] at hlt
    omega
  · exact .zero _
  · -- The mantissa is moved by its missing bits, of which there are at most 52.
    let shift := (0 - max (((n : Int).toNat.log2 : Int) + 1 + 0 - (53 : Nat)) (-1074)).toNat
    have hshift : shift ≤ 52 := by omega
    have hshifted : (n : Int).toNat <<< shift < 2 ^ (bits + 52) := by
      rw [Nat.shiftLeft_eq, Nat.pow_add, Int.toNat_natCast]
      have hpow : 2 ^ shift ≤ 2 ^ 52 := Nat.pow_le_pow_right (by decide) hshift
      exact Nat.mul_lt_mul_of_lt_of_le hn hpow (by decide)
    have hexponent : (0 : Int) - shift ≤ 0 := by omega
    have hround := atMost_roundWithAccuracy hshifted (Int.le_refl 0) hexponent .positive .exact
    rw [Int.zero_add] at hround
    exact hround

theorem atMost_mul {b b' : BitVec 64} {bound' : Int} (h : AtMost bound (unpack .binary64 b))
    (h' : AtMost bound' (unpack .binary64 b')) (hbound : 0 ≤ bound + bound') :
    AtMost (bound + bound' + 213) (mul .binary64 (unpack .binary64 b) (unpack .binary64 b')) := by
  generalize hu : unpack .binary64 b = u at h
  generalize hv : unpack .binary64 b' = v at h'
  cases h with
  | zero s =>
      cases h' with
      | zero _ => exact .zero _
      | finite _ _ _ => exact .zero _
  | @finite s m e hm h =>
      cases h' with
      | zero _ => exact .zero _
      | @finite s' m' e' hm' h' =>
          have hproduct : m * m' < 2 ^ 53 * 2 ^ 53 :=
            Nat.mul_lt_mul_of_lt_of_lt (mantissa_lt hu) (mantissa_lt hv)
          rw [← Nat.pow_add] at hproduct
          have hround := atMost_roundWithAccuracy hproduct hbound (Int.add_le_add h h') (s * s')
            .exact
          rwa [Int.add_assoc] at hround

theorem atMost_ofScientific {n bits : Nat} (hn : n < 2 ^ bits) :
    AtMost (2 * (bits + 53) + 1) (UnpackedFloat.ofScientific .binary64 n 0) := by
  unfold UnpackedFloat.ofScientific
  split
  · exact .zero _
  · have hsmall : ¬ (0 : Int) < -((2 ^ Format.binary64.exponentBits : Int) + n.log2) := by
      change ¬ (0 : Int) < -((2048 : Int) + n.log2)
      omega
    rw [if_neg (by decide), if_neg hsmall, if_pos (by decide)]
    have hshifted : n <<< 53 * 1 < 2 ^ (bits + 53) := by
      rw [Nat.mul_one, Nat.shiftLeft_eq, Nat.pow_add]
      exact Nat.mul_lt_mul_of_pos_right hn (by decide)
    have hexponent : -(53 : Nat) + 0 ≤ (0 : Int) := by decide
    have hround := atMost_roundWithAccuracy hshifted (Int.le_refl 0) hexponent .positive .exact
    rw [Int.zero_add] at hround
    exact hround

theorem isFinite_of_atMost (h : AtMost bound u) (hlower : -1074 ≤ bound) (hupper : bound ≤ 971) :
    (Float.ofModel (Float.Model.pack u)).isFinite = true :=
  (atMost_pack h hlower hupper).isFinite

theorem isFinite_ofNat {n : Nat} (hn : n < 2 ^ 65) : (Float.ofNat n).isFinite = true := by
  change (Float.ofScientific n false 0).isFinite = true
  unfold Float.ofScientific
  split
  · rename_i hsmall
    -- The fast way: the float of a word, times one.
    have hword : n.toUInt64.toNat < 2 ^ 53 := Nat.lt_of_le_of_lt (Nat.mod_le _ _) hsmall.1
    have hleft := atMost_pack (atMost_ofNat hword) (by decide) (by decide)
    have hsize : 0 < Float.exactlyRepresentablePowersOfTen.size := by decide
    have hone : Float.exactlyRepresentablePowersOfTen[0] = Float.ofBits 0x3FF0000000000000 := rfl
    have hright : AtMost 0 Float.exactlyRepresentablePowersOfTen[0].toModel.unpack := by
      have hmantissa : 0 < 2 ^ 52 := by decide
      have hexponent : (-52 : Int) ≤ 0 := by decide
      rw [hone]
      exact .finite .positive hmantissa hexponent
    exact isFinite_of_atMost (atMost_mul hleft hright (by decide)) (by decide) (by decide)
  · exact isFinite_of_atMost (atMost_ofScientific hn) (by decide) (by decide)

theorem AtMost.neg (h : AtMost bound u) : AtMost bound u.neg := by
  cases h with
  | zero s => exact .zero _
  | finite s hm h => exact .finite _ hm h

theorem isFinite_neg {x : Float} (h : x.isFinite = true) : x.neg.isFinite = true := by
  have hbound : AtMost 971 x.toModel.unpack := atMost_of_isFinite h
  exact isFinite_of_atMost hbound.neg (by decide) (by decide)

theorem isFinite_ofInt (n : WireInteger) : (Float.ofInt n.value).isFinite = true := by
  obtain ⟨value, hlower, hupper⟩ := n
  cases value with
  | ofNat n =>
      have hn : (n : Int) < 0x10000000000000000 := hupper
      exact isFinite_ofNat (by omega)
  | negSucc n => exact isFinite_neg (isFinite_ofNat (by omega))

end CourierTrack.Proofs.FloatRange
