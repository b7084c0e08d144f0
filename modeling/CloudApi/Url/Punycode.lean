import CloudApi.Text.Numeral

/-! Punycode: a label beyond ASCII as letters, digits and hyphens.

The characters of ASCII come first, behind them a hyphen if there are any, and then one number
for each other character, in the order of their code points: how many steps of "next position,
then next code point" lie between it and the one before. A number is written in base 36 with
least digit first, each digit below a threshold that ends it. -/
namespace CloudApi.Url.Punycode

open Text

def digit (d : Nat) : Char :=
  if d < 26 then Char.ofNat (97 + d) else Char.ofNat (22 + d)

def digitValue? (c : Char) : Option Nat :=
  if 'a' ≤ c ∧ c ≤ 'z' then some (c.toNat - 97)
  else if 'A' ≤ c ∧ c ≤ 'Z' then some (c.toNat - 65)
  else if '0' ≤ c ∧ c ≤ '9' then some (c.toNat - 22)
  else none

/-- The bound below which a digit at place `k` ends its number. -/
def threshold (bias k : Nat) : Nat :=
  if k ≤ bias then 1 else if bias + 26 ≤ k then 26 else k - bias

/-- How often 35 divides a delta before it is at most 455, times 36, and what is left. The fuel
is any number not below the delta. -/
def divisions : Nat → Nat → Nat × Nat
  | 0, delta => (0, delta)
  | fuel + 1, delta =>
    if 455 < delta then
      let (k, left) := divisions fuel (delta / 35)
      (k + 36, left)
    else (0, delta)

/-- The bias after a delta that placed one of `count` characters. -/
def adapt (delta count : Nat) (first : Bool) : Nat :=
  let halved := if first then delta / 700 else delta / 2
  let (k, left) := divisions halved (halved + halved / count)
  k + 36 * left / (left + 38)

/-- The digits of a number; the fuel is any number not below it. -/
def digits (bias : Nat) : (fuel k q : Nat) → List Char
  | 0, _, q => [digit q]
  | fuel + 1, k, q =>
    let t := threshold bias k
    if q < t then [digit q]
    else digit (t + (q - t) % (36 - t)) :: digits bias fuel (k + 36) ((q - t) / (36 - t))

structure Encoder where
  written : List Char
  delta : Nat
  bias : Nat
  /-- How many characters are placed. -/
  placed : Nat

/-- One character of the label while the code point `code` is being placed. -/
def Encoder.see (basic code : Nat) (e : Encoder) (c : Char) : Encoder :=
  if c.toNat < code then { e with delta := e.delta + 1 }
  else if c.toNat = code then
    { written := e.written ++ digits e.bias e.delta 36 e.delta
      delta := 0
      bias := adapt e.delta (e.placed + 1) (e.placed = basic)
      placed := e.placed + 1 }
  else e

/-- All occurrences of one code point after another, in increasing order. -/
def Encoder.place (label : List Char) (basic : Nat) : Nat → List Nat → Encoder → Encoder
  | _, [], e => e
  | next, code :: codes, e =>
    let e := { e with delta := e.delta + (code - next) * (e.placed + 1) }
    let e := label.foldl (Encoder.see basic code) e
    Encoder.place label basic (code + 1) codes { e with delta := e.delta + 1 }

def isBasic (c : Char) : Bool :=
  c.toNat < 0x80

def insertCode (n : Nat) : List Nat → List Nat
  | [] => [n]
  | m :: rest => if n < m then n :: m :: rest else if n = m then m :: rest
    else m :: insertCode n rest

/-- The code points beyond ASCII, increasing and each once. -/
def codes (label : List Char) : List Nat :=
  (label.filter (!isBasic ·)).foldl (fun sorted c => insertCode c.toNat sorted) []

def encode (label : List Char) : List Char :=
  let basic := label.filter isBasic
  let lead := if basic.isEmpty then [] else basic ++ ['-']
  lead ++ (Encoder.place label basic.length 0x80 (codes label) ⟨[], 0, 72, basic.length⟩).written

/-- One number from its digits, and what follows. -/
def number? (bias : Nat) : (k weight : Nat) → List Char → Option (Nat × List Char)
  | _, _, [] => none
  | k, weight, c :: rest => do
    let d ← digitValue? c
    let t := threshold bias k
    if d < t then some (d * weight, rest)
    else
      let (n, rest) ← number? bias (k + 36) (weight * (36 - t)) rest
      some (d * weight + n, rest)

/-- The characters behind the hyphen put into the label. The fuel is any number not below the
length of the text. -/
def insertAll (first : Bool) (bias code position : Nat) (label : List Char) :
    Nat → List Char → Option (List Char)
  | _, [] => some label
  | 0, _ => none
  | fuel + 1, cs => do
    let (delta, rest) ← number? bias 36 1 cs
    let count := label.length + 1
    let place := position + delta
    let code := code + place / count
    let spot := place % count
    if code.isValidChar then
      insertAll false (adapt delta count first) code (spot + 1)
        (label.take spot ++ Char.ofNat code :: label.drop spot) fuel rest
    else none

/-- The text before the last hyphen and the text behind it. A hyphen with nothing before it parts
nothing. -/
def split (cs : List Char) : List Char × List Char :=
  let behind := (cs.reverse.takeWhile (· != '-')).reverse
  let basic := cs.take (cs.length - behind.length - 1)
  if basic.isEmpty then ([], cs) else (basic, behind)

def decode? (cs : List Char) : Option (List Char) :=
  let (basic, extra) := split cs
  if basic.all isBasic then insertAll true 72 0x80 0 basic extra.length extra else none

end CloudApi.Url.Punycode
