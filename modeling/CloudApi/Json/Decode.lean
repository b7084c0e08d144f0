import CloudApi.Json.Printer
import CloudApi.Text.Quoted

/-! Reading typed values out of JSON.

A `Decoder` takes a value or says why it cannot: a value of another type, an integer out of
range, a list of another length, a field that is missing, a name that is not one of a fixed
set, or the refusal of a reader of text. Strings are never read as numbers, floats never as
integers. -/
namespace CloudApi.Json

open Text

/-- What a decoder met instead of what it expected. -/
inductive Found where
  | null
  | bool (b : Bool)
  | number (n : Number)
  | string (s : String)
  | sequence
  | map
  deriving DecidableEq

def Found.ofJson : Json → Found
  | .null => .null
  | .bool b => .bool b
  | .number n => .number n
  | .string s => .string s
  | .array _ => .sequence
  | .object _ => .map

def Found.message : Found → String
  | null => "null"
  | bool b => "boolean `" ++ (if b then "true" else "false") ++ "`"
  | number (.float x) => "floating point `" ++ String.ofList x.text ++ "`"
  | number n => "integer `" ++ String.ofList n.render ++ "`"
  | string s => "string " ++ Quoted.quote s
  | sequence => "sequence"
  | map => "map"

inductive DecodeError where
  | invalidType (found : Found) (expected : String)
  | invalidValue (found : Found) (expected : String)
  | invalidLength (length : Nat) (expected : String)
  | missingField (name : String)
  | unknownName (name : String) (known : List String)
  /-- The text inside a string was refused, in the words of its reader. -/
  | refused (reason : String)
  deriving DecidableEq

/-- A name as messages cite it. -/
def cited (name : String) : String :=
  "`" ++ name ++ "`"

/-- The names a reader would have accepted. -/
def oneOf : List String → String
  | [] => "there are no variants"
  | [a] => "expected " ++ cited a
  | [a, b] => "expected " ++ cited a ++ " or " ++ cited b
  | names => "expected one of " ++ ", ".intercalate (names.map cited)

def DecodeError.message : DecodeError → String
  | invalidType found expected => "invalid type: " ++ found.message ++ ", expected " ++ expected
  | invalidValue found expected => "invalid value: " ++ found.message ++ ", expected " ++ expected
  | invalidLength n expected =>
    "invalid length " ++ Numeral.decimalText n ++ ", expected " ++ expected
  | missingField name => "missing field " ++ cited name
  | unknownName name known => "unknown variant " ++ cited name ++ ", " ++ oneOf known
  | refused reason => reason

abbrev Decoder (α : Type) := Json → Except DecodeError α

/-- The refusal of a value of another type. -/
def mismatch {α : Type} (v : Json) (expected : String) : Except DecodeError α :=
  .error (.invalidType (.ofJson v) expected)

namespace Decoder

def value : Decoder Json :=
  .ok

def string : Decoder String
  | .string s => .ok s
  | v => mismatch v "a string"

def bool : Decoder Bool
  | .bool b => .ok b
  | v => mismatch v "a boolean"

def uint64 : Decoder UInt64
  | .number (.natural n) => .ok n
  | .number (.negative m) => .error (.invalidValue (.number (.negative m)) "u64")
  | v => mismatch v "u64"

def uint32 : Decoder UInt32
  | .number (.natural n) =>
    if n.toNat < 0x100000000 then .ok n.toUInt32
    else .error (.invalidValue (.number (.natural n)) "u32")
  | .number (.negative m) => .error (.invalidValue (.number (.negative m)) "u32")
  | v => mismatch v "u32"

/-- Nothing for `null`. -/
def optional {α : Type} (decode : Decoder α) : Decoder (Option α)
  | .null => .ok none
  | v => (decode v).map some

/-- Every item, in order; the first that fails decides. -/
def items {α : Type} (decode : Decoder α) : List Json → Except DecodeError (List α)
  | [] => .ok []
  | v :: rest => do
    let a ← decode v
    let as ← items decode rest
    .ok (a :: as)

def list {α : Type} (decode : Decoder α) : Decoder (List α)
  | .array vs => items decode vs
  | v => mismatch v "a sequence"

/-- The values of an object's fields, under their keys. -/
def entries {α : Type} (decode : Decoder α) :
    List (String × Json) → Except DecodeError (List (String × α))
  | [] => .ok []
  | (k, v) :: rest => do
    let a ← decode v
    let as ← entries decode rest
    .ok ((k, a) :: as)

def map {α : Type} (decode : Decoder α) : Decoder (List (String × α))
  | .object fields => (entries decode fields).map sortFields
  | v => mismatch v "a map"

/-- An object of any fields. -/
def object : Decoder (List (String × Json))
  | .object fields => .ok fields
  | v => mismatch v "a map"

/-- A name out of a fixed list, as a string or as the key of a one-field object that holds
`null`. -/
def name {α : Type} (known : List (String × α)) : Decoder α
  | .string s => pick s
  | .object [(s, v)] => do
    let a ← pick s
    match v with
    | .null => .ok a
    | v => mismatch v "unit"
  | .object _ => .error (.invalidValue .map "map with a single key")
  | v => mismatch v "string or map"
where
  pick (s : String) : Except DecodeError α :=
    match known.find? fun k => k.1 == s with
    | some (_, a) => .ok a
    | none => .error (.unknownName s (known.map Prod.fst))

/-- A value that a string spells, by a reader with error texts of its own. -/
def spelled {α ε : Type} (read : String → Except ε α) (reason : String → ε → String)
    (expected : String) : Decoder α
  | .string s =>
    match read s with
    | .ok a => .ok a
    | .error e => .error (.refused (reason s e))
  | v => mismatch v expected

end Decoder

end CloudApi.Json
