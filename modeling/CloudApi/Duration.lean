import CloudApi.Text.Numeral

/-! Spans of time: whole seconds of 64 bits and nanoseconds below one second. -/
namespace CloudApi

structure Duration where
  seconds : UInt64
  nanos : Fin 1000000000
  deriving DecidableEq

namespace Duration

open Text

def ofSeconds (s : UInt64) : Duration :=
  ⟨s, 0⟩

def ofMillis (ms : UInt64) : Duration :=
  ⟨ms / 1000, Fin.ofNat _ ((ms % 1000).toNat * 1000000)⟩

/-- The whole span in nanoseconds. -/
def toNanos (d : Duration) : Nat :=
  d.seconds.toNat * 1000000000 + d.nanos.val

/-- The whole milliseconds in a span; the rest is dropped. -/
def toMillis (d : Duration) : Nat :=
  d.toNanos / 1000000

/-- The shorter of two spans. -/
def shorter (a b : Duration) : Duration :=
  if a.toNanos ≤ b.toNanos then a else b

/-- A fraction of a unit that has `places` decimal places, without zeros at its end. -/
def fraction (places rest : Nat) : List Char :=
  if rest = 0 then []
  else '.' :: ((Numeral.padded places rest).reverse.dropWhile (· = '0')).reverse

/-- The span in the largest unit of which it has at least one. -/
def text (d : Duration) : String :=
  let inUnit (whole places rest : Nat) (unit : String) :=
    String.ofList (Numeral.decimal whole ++ fraction places rest) ++ unit
  let n := d.nanos.val
  if d.seconds ≠ 0 then inUnit d.seconds.toNat 9 n "s"
  else if 1000000 ≤ n then inUnit (n / 1000000) 6 (n % 1000000) "ms"
  else if 1000 ≤ n then inUnit (n / 1000) 3 (n % 1000) "µs"
  else inUnit n 0 0 "ns"

end Duration

end CloudApi
