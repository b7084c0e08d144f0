import CloudApi.Duration

/-! When to send a request again: how often at most, and with which delays between. -/
namespace CloudApi

structure RetryPolicy where
  maxRetries : UInt32
  initialDelay : Duration
  maxDelay : Duration
  multiplier : UInt32
  deriving DecidableEq

namespace RetryPolicy

open Text

def standard : RetryPolicy :=
  ⟨3, .ofMillis 500, .ofMillis 5000, 2⟩

def never : RetryPolicy :=
  ⟨0, .ofMillis 0, .ofMillis 0, 1⟩

def hasRetries (p : RetryPolicy) : Bool :=
  0 < p.maxRetries

/-- A power of 32 bits; a greater one is the greatest number there is. -/
def power (m : UInt32) (n : Nat) : UInt32 :=
  if m ≤ 1 then (if n = 0 then 1 else m)
  else if 32 ≤ n then 4294967295
  else (min (Nat.pow m.toNat n) 4294967295).toUInt32

/-- The delay before the retry of a number counted from one: the initial delay in whole
milliseconds, multiplied once for each retry before, up to the greatest delay. -/
def delay (p : RetryPolicy) (retry : UInt32) : Duration :=
  if retry = 0 then .ofSeconds 0
  else
    let factor := power p.multiplier (retry.toNat - 1)
    (Duration.ofMillis (p.initialDelay.toMillis.toUInt64 * factor.toUInt64)).shorter p.maxDelay

/-- How a policy shows in messages. -/
def text (p : RetryPolicy) : String :=
  "RetryPolicy \x7b max_retries: " ++ Numeral.decimalText p.maxRetries.toNat ++
    ", initial_delay: " ++ p.initialDelay.text ++ ", max_delay: " ++ p.maxDelay.text ++
    ", backoff_multiplier: " ++ Numeral.decimalText p.multiplier.toNat ++ " \x7d"

end RetryPolicy

end CloudApi
