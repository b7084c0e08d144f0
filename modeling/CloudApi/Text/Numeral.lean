/-! Numerals: digits of a natural number in base ten and base sixteen, and the reader of
numbers of bounded size. -/
namespace CloudApi.Text.Numeral

/-- The decimal digit of a number below ten. -/
def digit (d : Nat) : Char :=
  Char.ofNat (48 + d)

/-- The digits of `n` in a base, most significant first, each written by `glyph`. A fuel of
`n` is always enough, because a quotient is smaller than what was divided. -/
def digitsFrom (base : Nat) (glyph : Nat → Char) : Nat → Nat → List Char
  | 0, n => [glyph n]
  | fuel + 1, n =>
    if n < base then [glyph n]
    else digitsFrom base glyph fuel (n / base) ++ [glyph (n % base)]

/-- The decimal digits of a number; zero has one digit. -/
def decimal (n : Nat) : List Char :=
  digitsFrom 10 digit n n

/-- The digits of a number, padded with zeros on the left to at least `width`. -/
def padded (width n : Nat) : List Char :=
  let ds := decimal n
  List.replicate (width - ds.length) '0' ++ ds

def decimalText (n : Nat) : String :=
  String.ofList (decimal n)

def digitValue? (c : Char) : Option Nat :=
  if '0' ≤ c ∧ c ≤ '9' then some (c.toNat - 48) else none

def isDigit (c : Char) : Bool :=
  (digitValue? c).isSome

/-- The value of decimal digits, read on from `acc`. -/
def valueFrom? (acc : Nat) : List Char → Option Nat
  | [] => some acc
  | c :: rest => (digitValue? c).bind fun d => valueFrom? (acc * 10 + d) rest

/-- The value of one or more decimal digits; leading zeros count for nothing. -/
def value? : List Char → Option Nat
  | [] => none
  | cs => valueFrom? 0 cs

/-- A 64-bit count: decimal digits behind an optional plus sign. -/
def uint64? (cs : List Char) : Option UInt64 := do
  let digits := match cs with
    | '+' :: rest => rest
    | _ => cs
  let n ← value? digits
  if n < 0x10000000000000000 then some n.toUInt64 else none

def hexValue? (c : Char) : Option Nat :=
  if '0' ≤ c ∧ c ≤ '9' then some (c.toNat - 48)
  else if 'a' ≤ c ∧ c ≤ 'f' then some (c.toNat - 87)
  else if 'A' ≤ c ∧ c ≤ 'F' then some (c.toNat - 55)
  else none

def lowerHex (d : Nat) : Char :=
  if d < 10 then Char.ofNat (48 + d) else Char.ofNat (87 + d)

def upperHex (d : Nat) : Char :=
  if d < 10 then Char.ofNat (48 + d) else Char.ofNat (55 + d)

/-- Hexadecimal digits without padding, in lower case. -/
def hex (n : Nat) : List Char :=
  digitsFrom 16 lowerHex n n

end CloudApi.Text.Numeral
