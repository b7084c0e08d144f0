import CloudApi.Decimal.Binary64
import CloudApi.Text.Numeral

/-! The shortest decimal that reads back.

`digits` finds the fewest significant digits that lie in the interval of reals rounding to a
number, and of those the nearest to it; a tie goes to the even last digit. The interval holds
its ends exactly when the significand is even. `text` writes them: positional where the point
falls within sixteen digits of the first one or at most five places before it, in scientific
notation with a signed exponent otherwise, and never without a point or an exponent. -/
namespace CloudApi.Decimal

/-- Digits and the exponent of the last one: `value * 10 ^ exponent`. -/
structure Scientific where
  value : Nat
  exponent : Int

namespace Binary64

/-- A magnitude between two bounds, as numerators over one denominator. -/
structure Interval where
  low : Nat
  point : Nat
  high : Nat
  den : Nat
  closed : Bool

/-- The reals that round to the magnitude. Below a power of two the gap is half as wide. -/
def interval (x : Binary64) : Interval :=
  let low := if x.significand = leastFull ∧ leastExponent < x.exponent
    then 4 * x.significand - 1 else 4 * x.significand - 2
  let e := x.exponent - 2
  let up := if 0 ≤ e then Nat.pow 2 e.toNat else 1
  let den := if 0 ≤ e then 1 else Nat.pow 2 (-e).toNat
  ⟨low * up, 4 * x.significand * up, (4 * x.significand + 2) * up, den, x.significand % 2 = 0⟩

/-- The exponent of the first decimal digit of a positive ratio above `10 ^ -340`. -/
def leadingExponent (num den : Nat) : Int :=
  ((Text.Numeral.decimal (num * Nat.pow 10 340 / den)).length : Int) - 341

/-- A candidate `n * 10 ^ k` against the interval: whether it is inside, and how far from the
point, in units common to all candidates of one grid. -/
def candidate (i : Interval) (k : Int) (n : Nat) : Option Nat :=
  let scale := if 0 ≤ k then 1 else Nat.pow 10 (-k).toNat
  let v := n * i.den * (if 0 ≤ k then Nat.pow 10 k.toNat else 1)
  let low := i.low * scale
  let high := i.high * scale
  let point := i.point * scale
  if (low < v ∧ v < high) ∨ (i.closed ∧ low ≤ v ∧ v ≤ high) then
    some (if v ≤ point then point - v else v - point)
  else none

/-- The best of the two neighbours of the point on the grid of `10 ^ k`. -/
def onGrid (i : Interval) (k : Int) : Option Scientific :=
  let n :=
    if 0 ≤ k then i.point / (i.den * Nat.pow 10 k.toNat)
    else i.point * Nat.pow 10 (-k).toNat / i.den
  match candidate i k n, candidate i k (n + 1) with
  | some a, some b =>
    if a < b ∨ (a = b ∧ n % 2 = 0) then some ⟨n, k⟩ else some ⟨n + 1, k⟩
  | some _, none => some ⟨n, k⟩
  | none, some _ => some ⟨n + 1, k⟩
  | none, none => none

/-- Coarser grids first, so that the first hit has the fewest digits. -/
def search (i : Interval) (k : Int) : Nat → Scientific
  | 0 => ⟨0, 0⟩
  | grids + 1 => (onGrid i k).getD (search i (k - 1) grids)

def digits (x : Binary64) : Scientific :=
  let i := x.interval
  search i (leadingExponent i.point i.den) 18

/-- Digits without the zeros at their end, and the place of the point after the first of them. -/
def trimmed (s : Scientific) : List Char × Int :=
  let ds := Text.Numeral.decimal s.value
  ((ds.reverse.dropWhile (· = '0')).reverse, (ds.length : Int) + s.exponent)

/-- The magnitude of a number that is not zero. -/
def magnitudeText (x : Binary64) : List Char :=
  let (ds, point) := trimmed x.digits
  let n : Int := ds.length
  if n ≤ point ∧ point ≤ 16 then ds ++ List.replicate (point - n).toNat '0' ++ ['.', '0']
  else if 0 < point ∧ point ≤ 16 then ds.take point.toNat ++ '.' :: ds.drop point.toNat
  else if -5 < point ∧ point ≤ 0 then ['0', '.'] ++ List.replicate (-point).toNat '0' ++ ds
  else
    let e := point - 1
    let mantissa := match ds with
      | d :: rest@(_ :: _) => d :: '.' :: rest
      | ds => ds
    mantissa ++ 'e' :: (if e < 0 then '-' else '+') :: Text.Numeral.decimal e.natAbs

def text (x : Binary64) : List Char :=
  (if x.negative then ['-'] else []) ++
    (if x.significand = 0 then ['0', '.', '0'] else x.magnitudeText)

end Binary64

end CloudApi.Decimal
