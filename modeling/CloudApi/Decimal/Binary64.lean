/-! Finite binary floating-point numbers of 64 bits.

A number is a sign and `significand * 2 ^ exponent`, with a significand below `2 ^ 53` and an
exponent from -1074 to 971; a significand below `2 ^ 52` occurs only at the least exponent, so
two numbers are equal exactly when their fields are. Every operation takes the exact result, a
ratio of natural numbers, to the nearest number, a half going to the even neighbour. -/
namespace CloudApi.Decimal

structure Binary64 where
  negative : Bool
  significand : Nat
  exponent : Int
  deriving DecidableEq, Repr

namespace Binary64

def leastExponent : Int := -1074

def greatestExponent : Int := 971

/-- The least significand of 53 bits. -/
def leastFull : Nat := 0x10000000000000

def zero (negative : Bool) : Binary64 :=
  ⟨negative, 0, leastExponent⟩

/-- The magnitude as a ratio. -/
def ratio (x : Binary64) : Nat × Nat :=
  if 0 ≤ x.exponent then (x.significand * Nat.pow 2 x.exponent.toNat, 1)
  else (x.significand, Nat.pow 2 (-x.exponent).toNat)

/-- The ratio divided by `2 ^ e`. -/
def scaled (num den : Nat) (e : Int) : Nat × Nat :=
  if 0 ≤ e then (num, den * Nat.pow 2 e.toNat) else (num * Nat.pow 2 (-e).toNat, den)

/-- The quotient to the nearest, a half to the even neighbour. -/
def roundHalfEven (num den : Nat) : Nat :=
  let q := num / den
  let r := num % den
  if den < 2 * r ∨ (2 * r = den ∧ q % 2 = 1) then q + 1 else q

/-- The exponent at which a positive ratio has 53 bits, or the least one. -/
def exponentOf (num den : Nat) : Int :=
  let guess : Int := (num.log2 : Int) - (den.log2 : Int) - 53
  let (a, b) := scaled num den guess
  max leastExponent (if a / b < 2 * leastFull then guess else guess + 1)

/-- The number nearest to a ratio, unless it is out of range. -/
def ofRatio? (negative : Bool) (num den : Nat) : Option Binary64 :=
  if num = 0 then some (zero negative)
  else
    let e := exponentOf num den
    let (a, b) := scaled num den e
    let q := roundHalfEven a b
    let (q, e) := if q = 2 * leastFull then (leastFull, e + 1) else (q, e)
    if greatestExponent < e then none else some ⟨negative, q, e⟩

def ofNat (n : Nat) : Binary64 :=
  (ofRatio? false n 1).getD (zero false)

def withSign (x : Binary64) (negative : Bool) : Binary64 :=
  { x with negative }

def mul? (x y : Binary64) : Option Binary64 :=
  let (a, b) := x.ratio
  let (c, d) := y.ratio
  ofRatio? (x.negative != y.negative) (a * c) (b * d)

/-- The quotient by a number that is not zero. -/
def div? (x y : Binary64) : Option Binary64 :=
  let (a, b) := x.ratio
  let (c, d) := y.ratio
  ofRatio? (x.negative != y.negative) (a * d) (b * c)

/-- The number nearest to `10 ^ k`, for a `k` up to 308. -/
def powerOfTen (k : Nat) : Binary64 :=
  ofNat (Nat.pow 10 k)

/-- `x / 10 ^ k` in steps of at most 308 powers of ten, each rounded. -/
def shrink (x : Binary64) (k : Nat) : Binary64 :=
  go (k / 308 + 1) x k
where
  go : Nat → Binary64 → Nat → Binary64
    | 0, x, _ => x
    | fuel + 1, x, k =>
      if k ≤ 308 then (x.div? (powerOfTen k)).getD x
      else if x.significand = 0 then x
      else go fuel ((x.div? (powerOfTen 308)).getD x) (k - 308)

/-- `digits * 10 ^ e`: the digits are rounded first, then scaled by the rounded power. -/
def ofDecimal? (digits : Nat) (e : Int) : Option Binary64 :=
  let x := ofNat digits
  if 0 ≤ e then
    if digits = 0 then some x
    else if 308 < e then none
    else x.mul? (powerOfTen e.toNat)
  else some (x.shrink (-e).toNat)

end Binary64

end CloudApi.Decimal
