import CourierTrack.Time.Span
/-!
How long to wait before connecting again: the base span doubled for every failure, up to a limit.
-/

namespace CourierTrack.Channel

open Time

structure Backoff where
  base : Span := Span.millis 1000
  limit : Span := Span.millis 10000
  deriving Repr, DecidableEq

namespace Backoff

/-- Powers of two stop at the largest 32-bit word. -/
def factor (retry : Nat) : Nat := min (Nat.pow 2 (min retry 32)) 0xffffffff

/-- The wait after `retry` failures in a row before this one. -/
def delay (b : Backoff) (retry : Nat) : Span :=
  min (min (b.base * factor retry) Span.longest) b.limit

theorem delay_le_limit (b : Backoff) (retry : Nat) : b.delay retry ≤ b.limit :=
  Nat.min_le_right _ _

theorem factor_mono {m n : Nat} (h : m ≤ n) : factor m ≤ factor n := by
  have hexponent : min m 32 ≤ min n 32 := by omega
  have hpow : Nat.pow 2 (min m 32) ≤ Nat.pow 2 (min n 32) :=
    Nat.pow_le_pow_right (by decide) hexponent
  unfold factor
  omega

theorem delay_mono (b : Backoff) {m n : Nat} (h : m ≤ n) : b.delay m ≤ b.delay n := by
  have hproduct : b.base * factor m ≤ b.base * factor n := Nat.mul_le_mul_left _ (factor_mono h)
  have hcut : min (b.base * factor m) Span.longest ≤ min (b.base * factor n) Span.longest :=
    Nat.le_min.2 ⟨Nat.le_trans (Nat.min_le_left _ _) hproduct, Nat.min_le_right _ _⟩
  exact Nat.le_min.2 ⟨Nat.le_trans (Nat.min_le_left _ _) hcut, Nat.min_le_right _ _⟩

/-- Longer counts of failures than powers are computed for make no difference. -/
theorem delay_min (b : Backoff) {bound : Nat} (hbound : 32 ≤ bound) (n : Nat) :
    b.delay (min n bound) = b.delay n := by
  have hexponent : min (min n bound) 32 = min n 32 := by omega
  unfold delay factor
  rw [hexponent]

end Backoff

end CourierTrack.Channel
