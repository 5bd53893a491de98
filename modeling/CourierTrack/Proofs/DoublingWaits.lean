import CourierTrack.Channel.Backoff
import Mathlib.Algebra.Group.Nat.Defs
/-!
How long the waits of a backoff are what they are meant to be, the base span doubled for every
failure up to the limit. The factor stops one short of a power of two, so a wait falls short of its
doubled span exactly if the limit is not reached by then.
-/

namespace CourierTrack.Proofs.DoublingWaits

open CourierTrack.Time
open CourierTrack.Channel
open CourierTrack.Channel.Backoff

variable {b : Backoff} {retry : Nat}

theorem factor_of_lt (h : retry < 32) : factor retry = 2 ^ retry := by
  have hpow : 2 ^ retry ≤ 2 ^ 31 := Nat.pow_le_pow_right (by decide) (Nat.le_of_lt_succ h)
  have hfits : 2 ^ retry ≤ 0xffffffff := Nat.le_trans hpow (by decide)
  rw [factor, Nat.min_eq_left (Nat.le_of_lt h)]
  exact Nat.min_eq_left hfits

theorem factor_of_le (h : 32 ≤ retry) : factor retry = 2 ^ 32 - 1 := by
  rw [factor, Nat.min_eq_right h]
  rfl

theorem last_factor_lt (h : 32 ≤ retry) : 2 ^ 32 - 1 < 2 ^ retry := by
  have hpow : 2 ^ 32 ≤ 2 ^ retry := Nat.pow_le_pow_right (by decide) h
  exact Nat.lt_of_lt_of_le (by decide) hpow

/-- A limit that is a span of time hides where products of spans stop. -/
theorem delay_eq (hlimit : b.limit ≤ Span.longest) :
    b.delay retry = min b.limit (b.base * factor retry) := by
  rw [delay, Nat.min_assoc, Nat.min_eq_right hlimit, Nat.min_comm]

theorem min_mul_eq_iff {limit base small large : Nat} (h : small < large) :
    min limit (base * small) = min limit (base * large) ↔ base = 0 ∨ limit ≤ base * small := by
  rcases Nat.eq_zero_or_pos base with rfl | hpos
  · simp
  · have hless : base * small < base * large := Nat.mul_lt_mul_of_pos_left h hpos
    omega

/-- A wait is the base span doubled for every failure, up to the limit, exactly if there are fewer
failures than the factor has bits, or the base span is empty, or the limit is within the last
factor; after more failures it is the base span times the last factor, up to the limit. -/
theorem delay_eq_doubled_iff (b : Backoff) (retry : Nat) (hlimit : b.limit ≤ Span.longest) :
    (b.delay retry = min b.limit (b.base * 2 ^ retry) ↔
      retry < 32 ∨ b.base = 0 ∨ b.limit ≤ b.base * (2 ^ 32 - 1)) ∧
    (32 ≤ retry → b.delay retry = min b.limit (b.base * (2 ^ 32 - 1))) := by
  rw [delay_eq hlimit]
  rcases Nat.lt_or_ge retry 32 with hfew | hmany
  · rw [factor_of_lt hfew]
    exact ⟨⟨fun _ => .inl hfew, fun _ => rfl⟩, fun hmany => absurd hfew (Nat.not_lt.2 hmany)⟩
  · rw [factor_of_le hmany, min_mul_eq_iff (last_factor_lt hmany)]
    have hnot : ¬ retry < 32 := Nat.not_lt.2 hmany
    exact ⟨⟨.inr, fun h => h.resolve_left hnot⟩, fun _ => rfl⟩

/-- With the usual spans the limit is reached long before. -/
theorem delay_eq_doubled_iff_usual :
    let b : Backoff := {}
    b.limit ≤ Span.longest ∧ 32 ≤ 40 ∧ b.delay 40 = min b.limit (b.base * 2 ^ 40) ∧
      b.delay 40 = Span.millis 10000 := by
  intro b
  have hlimit : b.limit ≤ Span.longest := by decide
  have hwithin : b.limit ≤ b.base * (2 ^ 32 - 1) := by decide +kernel
  obtain ⟨hiff, hlast⟩ := delay_eq_doubled_iff b 40 hlimit
  have hreached : min b.limit (b.base * (2 ^ 32 - 1)) = Span.millis 10000 := by decide +kernel
  exact ⟨hlimit, by decide, hiff.2 (.inr (.inr hwithin)), (hlast (by decide)).trans hreached⟩

/-- A short base span under a long limit is never multiplied by a full power of two. -/
theorem delay_short_of_doubled :
    let b : Backoff := ⟨Span.millis 1, Span.millis (2 ^ 32)⟩
    b.base ≤ b.limit ∧ b.limit ≤ Span.longest ∧
      min b.limit (b.base * 2 ^ 32) = Span.millis (2 ^ 32) ∧
      b.delay 32 = Span.millis (2 ^ 32 - 1) := by
  decide

end CourierTrack.Proofs.DoublingWaits
