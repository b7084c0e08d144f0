import CloudApi.Text.Numeral

/-! Addresses in place of a host name.

An address of 32 bits is read from up to four numbers in decimal, octal or hexadecimal, of which
the last fills all places that are left, and written as four decimal numbers. An address of 128
bits is eight hexadecimal pieces, of which the last two may be written as an address of 32 bits
and one run of zeros may be left out; it is written without its first longest run of two zeros
or more. -/
namespace CloudApi.Url.Address

open Text

/-- The parts of a text between separators, at least one. -/
def splitOn (separator : Char) : List Char → List (List Char)
  | [] => [[]]
  | c :: rest =>
    if c = separator then [] :: splitOn separator rest
    else match splitOn separator rest with
      | [] => [[c]]
      | part :: parts => (c :: part) :: parts

def joinWith (separator : Char) : List (List Char) → List Char
  | [] => []
  | [part] => part
  | part :: parts => part ++ separator :: joinWith separator parts

/-- A digit below the base. -/
def digitBelow? (base : Nat) (c : Char) : Option Nat :=
  (Numeral.hexValue? c).bind fun d => if d < base then some d else none

/-- The value of digits in a base; no digits are zero. -/
def valueIn? (base : Nat) (cs : List Char) : Option Nat :=
  cs.foldl (fun acc c => do
    let n ← acc
    let d ← digitBelow? base c
    some (n * base + d)) (some 0)

/-- A part of an address of 32 bits: hexadecimal behind `0x`, octal behind `0`. -/
def part? : List Char → Option Nat
  | [] => none
  | '0' :: 'x' :: rest | '0' :: 'X' :: rest => valueIn? 16 rest
  | '0' :: c :: rest => valueIn? 8 (c :: rest)
  | cs => valueIn? 10 cs

/-- The parts of a name, without an empty one at its end. -/
def parts (name : List Char) : List (List Char) :=
  match (splitOn '.' name).reverse with
  | [] :: rest@(_ :: _) => rest.reverse
  | rest => rest.reverse

/-- Whether the last part of a name is a number, so that the name has to be an address. -/
def endsInNumber (name : List Char) : Bool :=
  match (parts name).getLast? with
  | none | some [] => false
  | some last => last.all Numeral.isDigit || (part? last).isSome

/-- Leading parts of one byte each, and a last one for the bytes that are left. -/
def combine? (bytesLeft acc : Nat) : List Nat → Option Nat
  | [] => none
  | [n] => if n < Nat.pow 256 bytesLeft then some (acc * Nat.pow 256 bytesLeft + n) else none
  | n :: rest => if n < 256 then combine? (bytesLeft - 1) (acc * 256 + n) rest else none

def ipv4? (name : List Char) : Option (BitVec 32) := do
  let ps := parts name
  if 4 < ps.length then none
  else
    let n ← combine? 4 0 (← ps.mapM part?)
    some (BitVec.ofNat 32 n)

/-- A byte in decimal without leading zeros. -/
def byte? (cs : List Char) : Option Nat :=
  match cs with
  | '0' :: _ :: _ => none
  | _ => (Numeral.value? cs).bind fun n => if n < 256 then some n else none

/-- Two pieces from four bytes between points. -/
def dotted? (cs : List Char) : Option (List Nat) :=
  match (splitOn '.' cs).mapM byte? with
  | some [a, b, c, d] => some [a * 256 + b, c * 256 + d]
  | _ => none

def piece? (cs : List Char) : Option Nat :=
  if cs.isEmpty ∨ 4 < cs.length then none else valueIn? 16 cs

/-- The pieces of groups between colons, of which the last may be dotted if `tail`. -/
def groups? (tail : Bool) : List (List Char) → Option (List Nat)
  | [] => some []
  | [g] => if tail && g.contains '.' then dotted? g else (piece? g).map ([·])
  | g :: rest => do
    let n ← piece? g
    let ns ← groups? tail rest
    some (n :: ns)

/-- The text before the first double colon and the text behind it. -/
def splitAtGap : List Char → Option (List Char × List Char)
  | ':' :: ':' :: rest => some ([], rest)
  | c :: rest => (splitAtGap rest).map fun (before, after) => (c :: before, after)
  | [] => none

/-- The pieces of a text between colons; an empty text has none. -/
def side? (tail : Bool) (cs : List Char) : Option (List Nat) :=
  if cs.isEmpty then some [] else groups? tail (splitOn ':' cs)

/-- The eight pieces of an address of 128 bits. -/
def ipv6? (cs : List Char) : Option (List Nat) :=
  match splitAtGap cs with
  | none => (side? true cs).bind fun ns => if ns.length = 8 then some ns else none
  | some (before, after) => do
    let front ← side? false before
    let back ← side? true after
    let given := front.length + back.length
    if given < 8 then some (front ++ List.replicate (8 - given) 0 ++ back) else none

def ipv4Text (a : BitVec 32) : List Char :=
  let n := a.toNat
  joinWith '.' ([n / 0x1000000, n / 0x10000 % 256, n / 0x100 % 256, n % 256].map Numeral.decimal)

/-- Where the first longest run of zeros starts, and how long it is. -/
def longestRun : Nat → List Nat → Nat × Nat
  | _, [] => (0, 0)
  | start, n :: rest =>
    let here := ((n :: rest).takeWhile (· == 0)).length
    let (place, size) := longestRun (start + 1) rest
    if size ≤ here then (start, here) else (place, size)

def ipv6Text (pieces : List Nat) : List Char :=
  let (start, size) := longestRun 0 pieces
  let texts := pieces.map Numeral.hex
  if size < 2 then joinWith ':' texts
  else joinWith ':' (texts.take start) ++ [':', ':'] ++ joinWith ':' (texts.drop (start + size))

end CloudApi.Url.Address
