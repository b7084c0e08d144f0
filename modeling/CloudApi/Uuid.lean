import CloudApi.Text.Caseless
import CloudApi.Text.Numeral

/-! Universally unique identifiers.

An identifier is its 32 hexadecimal digits. It is written in lower case in groups of 8, 4, 4, 4
and 12 with hyphens between them. It is read in either case from that form, from the same form
in braces or behind `urn:uuid:`, and from the bare digits without hyphens. -/
namespace CloudApi

structure Uuid where
  digits : List (Fin 16)
  length_digits : digits.length = 32
  deriving DecidableEq

namespace Uuid

open Text

/-- The hyphenated form: a place for each digit and the hyphens between the groups. -/
def layout : List Char :=
  "xxxxxxxx-xxxx-xxxx-xxxx-xxxxxxxxxxxx".toList

def digit? (c : Char) : Option (Fin 16) :=
  (Numeral.hexValue? c).bind fun d => if h : d < 16 then some ⟨d, h⟩ else none

/-- Digits put into the places of a layout. -/
def fill : List Char → List (Fin 16) → List Char
  | [], _ => []
  | 'x' :: places, d :: ds => Numeral.lowerHex d.val :: fill places ds
  | c :: places, ds => c :: fill places ds

/-- The digits at the places of a layout; what is not a place must be there as it is. -/
def scan : List Char → List Char → Option (List (Fin 16))
  | [], [] => some []
  | 'x' :: places, c :: cs => do
    let d ← digit? c
    let ds ← scan places cs
    some (d :: ds)
  | p :: places, c :: cs => if p = c then scan places cs else none
  | _, _ => none

def ofDigits? (ds : List (Fin 16)) : Option Uuid :=
  if h : ds.length = 32 then some ⟨ds, h⟩ else none

def chars (u : Uuid) : List Char :=
  fill layout u.digits

/-- The hyphenated form. -/
def text (u : Uuid) : String :=
  String.ofList u.chars

/-- The version, which is the thirteenth digit. -/
def version (u : Uuid) : Nat :=
  (u.digits.get ⟨12, by rw [u.length_digits]; decide⟩).val

inductive ParseError where
  | character (c : Char) (position : Nat)
  /-- Bare digits of another length. -/
  | length (found : Nat)
  | groupCount (found : Nat)
  | groupLength (group expected found : Nat)
  deriving DecidableEq

def ParseError.message : ParseError → String
  | character c position =>
    "invalid character: found `" ++ String.ofList [c] ++ "` at " ++ Numeral.decimalText position
  | length found => "invalid length: found " ++ Numeral.decimalText found
  | groupCount found =>
    "invalid group count: expected 5, found " ++ Numeral.decimalText found
  | groupLength group expected found =>
    "invalid group length in group " ++ Numeral.decimalText group ++ ": expected " ++
      Numeral.decimalText expected ++ ", found " ++ Numeral.decimalText found

/-- The text in braces or behind `urn:uuid:`, and how much stands in front of it. -/
def unwrap? (cs : List Char) : Option (List Char × Nat) :=
  if cs.head? = some '\x7b' ∧ cs.getLast? = some '\x7d' ∧ 2 ≤ cs.length then
    some ((cs.drop 1).dropLast, 1)
  else if (cs.take 9).map Caseless.lower = "urn:uuid:".toList then some (cs.drop 9, 9)
  else none

/-- Lengths are those of the UTF-8 form. -/
def byteLength (cs : List Char) : Nat :=
  cs.foldr (fun c n => c.utf8Size + n) 0

/-- What can be the hyphenated form by its length: the text itself, or the wrapped one. -/
def hyphenated? (cs : List Char) : Option (List Char) :=
  if byteLength cs = layout.length then some cs
  else (unwrap? cs).bind fun (inner, _) =>
    if byteLength inner = layout.length then some inner else none

/-- Where the hyphens stand; any other character that is no digit is an error. Positions in the
error count from `offset`. -/
def hyphens (offset index : Nat) : List Char → Except ParseError (List Nat)
  | [] => .ok []
  | c :: rest =>
    if c = '-' then do
      let places ← hyphens offset (index + 1) rest
      .ok (index :: places)
    else if (digit? c).isSome then hyphens offset (index + 1) rest
    else .error (.character c (offset + index))

/-- The first group whose end is not where it belongs, or the last one. -/
def wrongGroup (group start : Nat) : List Nat → List Nat → Nat → ParseError
  | size :: sizes, place :: places, total =>
    if place = start + size then wrongGroup (group + 1) (place + 1) sizes places total
    else .groupLength group size (place - start)
  | size :: _, [], total => .groupLength group size (total - start)
  | [], _, total => .groupLength group 0 (total - start)

/-- What is wrong with a text that `total` characters hold: a character, then the number of
groups, then their sizes. Where digits without hyphens would do, only their number can be wrong. -/
def diagnose (offset total : Nat) (plain : Bool) (cs : List Char) : ParseError :=
  match hyphens offset 0 cs with
  | .error e => e
  | .ok places =>
    if places = [] ∧ plain then .length total
    else if places.length ≠ 4 then .groupCount (places.length + 1)
    else wrongGroup 0 0 [8, 4, 4, 4, 12] places total

/-- The longest form: `urn:uuid:` and what follows it. -/
def longest : Nat :=
  9 + layout.length

/-- Why a text is no identifier. One that has the length of a form is looked at as that form;
any other is unwrapped first, but its last group is measured to the end of the whole. -/
def explain (cs : List Char) : ParseError :=
  if longest < byteLength cs then .length (byteLength cs)
  else match hyphenated? cs with
    | some form => diagnose 0 form.length false form
    | none =>
      match if byteLength cs = 32 then none else unwrap? cs with
      | some (inner, offset) => diagnose offset cs.length false inner
      | none => diagnose 0 cs.length true cs

def parseChars (cs : List Char) : Except ParseError Uuid :=
  let digits := ((hyphenated? cs).bind (scan layout)).or (cs.mapM digit?)
  match digits.bind ofDigits? with
  | some u => .ok u
  | none => .error (explain cs)

def parse (s : String) : Except ParseError Uuid :=
  parseChars s.toList

end Uuid

end CloudApi
