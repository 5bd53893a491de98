/-!
Rounding a quotient of whole numbers to the nearest whole number.
-/

namespace CourierTrack.Decimal

/-- Which neighbour an exact half goes to. -/
inductive Tie where
  | toEven
  | up
  deriving Repr, DecidableEq

/-- The whole number nearest to `num / den`; an exact half goes as `tie` says. -/
def roundDiv (tie : Tie) (num den : Nat) : Nat :=
  let floor := num / den
  let doubled := 2 * (num % den)
  if doubled < den then floor
  else if den < doubled then floor + 1
  else match tie with
    | .toEven => if floor % 2 = 0 then floor else floor + 1
    | .up => floor + 1

theorem roundDiv_exact (tie : Tie) (n : Nat) {den : Nat} (h : 0 < den) :
    roundDiv tie (n * den) den = n := by
  simp [roundDiv, Nat.mul_div_cancel _ h, h]

/-- The chosen whole number is at most half a unit away. -/
theorem roundDiv_near (tie : Tie) (num : Nat) {den : Nat} (h : 0 < den) :
    2 * (roundDiv tie num den * den) ≤ 2 * num + den ∧
      2 * num ≤ 2 * (roundDiv tie num den * den) + den := by
  have hdiv := Nat.div_add_mod num den
  have hmod := Nat.mod_lt num h
  have hsucc : (num / den + 1) * den = den * (num / den) + den := by
    rw [Nat.add_mul, Nat.mul_comm, Nat.one_mul]
  have hfloor : num / den * den = den * (num / den) := Nat.mul_comm _ _
  unfold roundDiv
  simp only
  split
  · rw [hfloor]; omega
  · split
    · rw [hsucc]; omega
    · cases tie <;> simp only <;> (try split) <;> (first | rw [hfloor] | rw [hsucc]) <;> omega

end CourierTrack.Decimal
