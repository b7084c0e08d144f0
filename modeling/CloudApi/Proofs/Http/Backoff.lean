import CloudApi.Http.Retry
import Mathlib.Algebra.Order.Ring.Nat
import Mathlib.Data.Nat.Basic

/-! The delays of a retry policy.

A policy describes delays that grow by its multiplier from retry to retry, up to a greatest one
(`backoff`). The delays it gives are computed in whole milliseconds, with a power of 32 bits: what
is reached that way (`reached`) is never longer than described, and is cut short exactly where the
initial delay has a part of a millisecond or the power does not fit, before the greatest delay
evens it out (`delay_backoff`). -/
namespace CloudApi

namespace Duration

theorem toNanos_ofMillis (ms : UInt64) : (ofMillis ms).toNanos = ms.toNat * 1000000 := by
  have hrest : (ms % 1000).toNat = ms.toNat % 1000 := UInt64.toNat_mod ms 1000
  have hseconds : (ms / 1000).toNat = ms.toNat / 1000 := UInt64.toNat_div ms 1000
  have hnanos : (Fin.ofNat 1000000000 ((ms % 1000).toNat * 1000000)).val =
      ms.toNat % 1000 * 1000000 := by
    rw [Fin.val_ofNat, hrest]
    omega
  unfold toNanos ofMillis
  dsimp only
  rw [hnanos, hseconds]
  omega

theorem toNanos_shorter (a b : Duration) : (a.shorter b).toNanos = min a.toNanos b.toNanos := by
  unfold shorter
  split
  · next hle => exact (Nat.min_eq_left hle).symm
  · next hlt => exact (Nat.min_eq_right (by omega)).symm

theorem toMillis_le (d : Duration) : d.toMillis * 1000000 ≤ d.toNanos :=
  Nat.div_mul_le_self _ _

end Duration

namespace RetryPolicy

theorem toNat_power (m : UInt32) (n : Nat) : (power m n).toNat = min (m.toNat ^ n) 4294967295 := by
  unfold power
  by_cases hsmall : m ≤ 1
  · rw [if_pos hsmall]
    have hle : m.toNat ≤ 1 := UInt32.le_iff_toNat_le.mp hsmall
    by_cases hn : n = 0
    · simp [hn]
    · rw [if_neg hn]
      rcases Nat.le_one_iff_eq_zero_or_eq_one.mp hle with hm | hm <;> simp [hm, hn]
  · rw [if_neg hsmall]
    have htwo : 2 ≤ m.toNat := by
      have hlt := mt UInt32.le_iff_toNat_le.mpr hsmall
      exact Nat.lt_of_not_le hlt
    by_cases hlong : 32 ≤ n
    · have hover : 2 ^ 32 ≤ m.toNat ^ n := calc
        2 ^ 32 ≤ 2 ^ n := Nat.pow_le_pow_right (by decide) hlong
        _ ≤ m.toNat ^ n := Nat.pow_le_pow_left htwo n
      rw [if_pos hlong, Nat.min_eq_right (by omega)]
      rfl
    · have hfits : min (m.toNat ^ n) 4294967295 < 2 ^ 32 :=
        Nat.lt_of_le_of_lt (Nat.min_le_right _ _) (by decide)
      rw [if_neg hlong]
      exact (UInt32.toNat_ofNat').trans (Nat.mod_eq_of_lt hfits)

section Backoff
variable (p : RetryPolicy) (retry : UInt32)

/-- How many times the initial delay is taken: the multiplier once for each retry before. -/
def growth : Nat :=
  p.multiplier.toNat ^ (retry.toNat - 1)

/-- The delay that a policy describes, in nanoseconds. -/
def backoff : Nat :=
  min (p.initialDelay.toNanos * p.growth retry) p.maxDelay.toNanos

/-- What the delay reaches in whole milliseconds and with a power of 32 bits. -/
def reached : Nat :=
  p.initialDelay.toMillis * 1000000 * min (p.growth retry) 4294967295

/-- Nothing is cut off: the initial delay is in whole milliseconds and the power fits, or there is
nothing to wait for. -/
def Uncut : Prop :=
  p.initialDelay.toNanos * p.growth retry = 0 ∨
    1000000 ∣ p.initialDelay.toNanos ∧ p.growth retry ≤ 4294967295

theorem reached_le : p.reached retry ≤ p.initialDelay.toNanos * p.growth retry :=
  Nat.mul_le_mul p.initialDelay.toMillis_le (Nat.min_le_left _ _)

theorem reached_eq_iff :
    p.reached retry = p.initialDelay.toNanos * p.growth retry ↔ p.Uncut retry := by
  have hmillis := p.initialDelay.toMillis_le
  have hgrowth := Nat.min_le_left (p.growth retry) 4294967295
  constructor
  · intro heq
    rcases Nat.eq_zero_or_pos (p.initialDelay.toNanos * p.growth retry) with hzero | hpos
    · exact .inl hzero
    have hdelay := Nat.pos_of_mul_pos_right hpos
    have hgrows := Nat.pos_of_mul_pos_left hpos
    refine .inr ⟨⟨p.initialDelay.toMillis, ?_⟩, ?_⟩
    · by_contra hpart
      exact absurd heq (Nat.ne_of_lt (Nat.mul_lt_mul_of_lt_of_le (by omega) hgrowth hgrows))
    · by_contra hlarge
      exact absurd heq (Nat.ne_of_lt (Nat.mul_lt_mul_of_le_of_lt hmillis (by omega) hdelay))
  · rintro (hzero | ⟨hwhole, hfits⟩)
    · exact Nat.le_antisymm (p.reached_le retry) (hzero ▸ Nat.zero_le _)
    · unfold reached Duration.toMillis
      rw [Nat.div_mul_cancel hwhole, Nat.min_eq_left hfits]

/-- The product of 64 bits is the exact one: what it would leave out above 64 bits, the described
delay would leave out too. -/
theorem toNat_millis
    (hfits : p.initialDelay.toNanos * p.growth retry < 2 ^ 64 * 1000000) :
    (p.initialDelay.toMillis.toUInt64 * (power p.multiplier (retry.toNat - 1)).toUInt64).toNat =
      p.initialDelay.toMillis * min (p.growth retry) 4294967295 := by
  have hbound : p.initialDelay.toMillis * min (p.growth retry) 4294967295 < 2 ^ 64 := by
    have hle := p.reached_le retry
    have hreached : p.reached retry =
        p.initialDelay.toMillis * min (p.growth retry) 4294967295 * 1000000 :=
      Nat.mul_right_comm _ _ _
    omega
  have hpower : (power p.multiplier (retry.toNat - 1)).toNat = min (p.growth retry) 4294967295 :=
    toNat_power _ _
  rw [UInt64.toNat_mul, UInt32.toNat_toUInt64, hpower, Nat.toUInt64_eq, UInt64.toNat_ofNat',
    Nat.mod_mul_mod, Nat.mod_eq_of_lt hbound]

theorem toNanos_delay (hretry : retry ≠ 0)
    (hfits : p.initialDelay.toNanos * p.growth retry < 2 ^ 64 * 1000000) :
    (p.delay retry).toNanos = min (p.reached retry) p.maxDelay.toNanos := by
  unfold delay reached
  rw [if_neg hretry, Duration.toNanos_shorter, Duration.toNanos_ofMillis,
    p.toNat_millis retry hfits, Nat.mul_right_comm]

/-- A policy's delay is the described one, in all that fits in milliseconds of 64 bits, except that
it is reckoned from the whole milliseconds of the initial delay and from a power of 32 bits. It is
never longer than described, and shorter just where that loses something and the greatest delay
does not even it out. -/
theorem delay_backoff (hretry : retry ≠ 0)
    (hfits : p.initialDelay.toNanos * p.growth retry < 2 ^ 64 * 1000000) :
    (p.delay retry).toNanos = min (p.reached retry) p.maxDelay.toNanos ∧
      (p.delay retry).toNanos ≤ p.backoff retry ∧
      ((p.delay retry).toNanos = p.backoff retry ↔
        p.maxDelay.toNanos ≤ p.reached retry ∨ p.Uncut retry) := by
  have hdelay := p.toNanos_delay retry hretry hfits
  have hle := p.reached_le retry
  have huncut := p.reached_eq_iff retry
  rw [hdelay, ← huncut]
  unfold backoff
  exact ⟨rfl, by omega, by omega⟩

end Backoff

/-- The last retry of the standard policy, the first one that its greatest delay cuts short. -/
theorem delay_backoff_of_standard :
    (5 : UInt32) ≠ 0 ∧
      standard.initialDelay.toNanos * standard.growth 5 < 2 ^ 64 * 1000000 ∧
      (standard.delay 5).toNanos = standard.backoff 5 := by
  have hfits : standard.initialDelay.toNanos * standard.growth 5 < 2 ^ 64 * 1000000 := by
    decide +kernel
  exact ⟨by decide, hfits,
    ((standard.delay_backoff 5 (by decide) hfits).2.2).mpr (.inl (by decide +kernel))⟩

/-- A power above 32 bits, and a part of a millisecond. -/
theorem delay_below_backoff :
    (∃ p : RetryPolicy, p.initialDelay.toNanos * p.growth 3 < 2 ^ 64 * 1000000 ∧
      p.delay 3 = .ofMillis 4294967295 ∧ p.backoff 3 = 1000000000 * 1000000000) ∧
    ∃ p : RetryPolicy, p.initialDelay.toNanos * p.growth 1 < 2 ^ 64 * 1000000 ∧
      p.delay 1 = .ofMillis 0 ∧ p.backoff 1 = 999000 :=
  ⟨⟨⟨3, .ofMillis 1, .ofMillis 10000000000000, 1000000⟩, by decide +kernel⟩,
    ⟨3, ⟨0, 999000⟩, .ofMillis 5000, 2⟩, by decide +kernel⟩

end RetryPolicy

end CloudApi
