import CloudApi.Json.Decode

/-! Records as JSON objects.

A `Record` lists the fields of a type in their order, each with its key, its decoder, the value
it has when it is absent and what is written for it. One list serves both directions.

Reading an object goes through its fields in the order of their keys and stops at the first
known one that does not decode; fields that are missing are reported after that, in the order
of the record. An array stands for the fields in the record's order: it may end early where
only fields with a default are left, and may not go on past the last. -/
namespace CloudApi.Json

structure Field (α : Type) where
  key : String
  decode : Decoder α
  /-- The value of an absent field; a field without one is required. -/
  absent : Option α
  /-- What is written, or nothing for a field left out. -/
  encode : α → Option Json

namespace Field
variable {α : Type}

def required (key : String) (decode : Decoder α) (encode : α → Json) : Field α :=
  ⟨key, decode, none, fun a => some (encode a)⟩

/-- A field with a default, always written. -/
def withDefault (key : String) (default : α) (decode : Decoder α) (encode : α → Json) : Field α :=
  ⟨key, decode, some default, fun a => some (encode a)⟩

/-- A field that may be absent or `null`, and is left out then. -/
def optional (key : String) (decode : Decoder α) (encode : α → Json) : Field (Option α) :=
  ⟨key, decode.optional, some none, fun a => a.map encode⟩

/-- A text-to-text map, left out when empty if `skipEmpty`. -/
def texts (key : String) (skipEmpty : Bool) : Field (List (String × String)) :=
  ⟨key, Decoder.map Decoder.string, some [],
    fun entries =>
      if skipEmpty && entries.isEmpty then none
      else some (ofFields (entries.map fun (k, v) => (k, .string v)))⟩

end Field

inductive Fields : List Type → Type 1
  | nil : Fields []
  | cons {α : Type} {αs : List Type} (field : Field α) (rest : Fields αs) : Fields (α :: αs)

/-- One value for every field. -/
def Row : List Type → Type
  | [] => Unit
  | α :: αs => α × Row αs

namespace Fields

def length : {αs : List Type} → Fields αs → Nat
  | _, nil => 0
  | _, cons _ rest => rest.length + 1

/-- Whether the value under a key decodes; an unknown key always does. -/
def check (key : String) (v : Json) : {αs : List Type} → Fields αs → Except DecodeError Unit
  | _, nil => .ok ()
  | _, cons f rest => if f.key = key then (f.decode v).map fun _ => () else rest.check key v

/-- All fields of an object, in the object's order. -/
def checkAll {αs : List Type} (fs : Fields αs) : List (String × Json) → Except DecodeError Unit
  | [] => .ok ()
  | (k, v) :: rest => do
    fs.check k v
    fs.checkAll rest

/-- The row of an object, in the record's order. -/
def pick (object : List (String × Json)) : {αs : List Type} → Fields αs → Except DecodeError (Row αs)
  | _, nil => .ok ()
  | _, cons f rest => do
    let a ← match field? object f.key with
      | some v => f.decode v
      | none => match f.absent with
        | some a => .ok a
        | none => .error (.missingField f.key)
    let row ← rest.pick object
    .ok (a, row)

/-- The row of an array of `length` items, of which `done` are read; `expected` describes the
record. -/
def take (expected : String) (length : Nat) : {αs : List Type} → Fields αs → (done : Nat) →
    List Json → Except DecodeError (Row αs)
  | _, nil, _, [] => .ok ()
  | _, nil, _, _ :: _ => .error (.invalidLength length "fewer elements in array")
  | _, cons f rest, done, v :: items => do
    let a ← f.decode v
    let row ← rest.take expected length (done + 1) items
    .ok (a, row)
  | _, cons f rest, done, [] =>
    match f.absent with
    | some a => do
      let row ← rest.take expected length (done + 1) []
      .ok (a, row)
    | none => .error (.invalidLength done expected)

def encode : {αs : List Type} → Fields αs → Row αs → List (String × Json)
  | _, nil, () => []
  | _, cons f rest, (a, row) =>
    match f.encode a with
    | some v => (f.key, v) :: rest.encode row
    | none => rest.encode row

end Fields

/-- A type as a record: its name in messages, its fields and how its values are made of them. -/
structure Record (α : Type) where
  name : String
  shape : List Type
  fields : Fields shape
  build : Row shape → α
  parts : α → Row shape

namespace Record
variable {α : Type} (r : Record α)

/-- What messages call the record. -/
def title : String :=
  "struct " ++ r.name

/-- What an array of another length should have been. -/
def arrayTitle : String :=
  r.title ++ " with " ++ Text.Numeral.decimalText r.fields.length ++
    (if r.fields.length = 1 then " element" else " elements")

def decode : Decoder α
  | .object fields => do
    r.fields.checkAll fields
    let row ← r.fields.pick fields
    .ok (r.build row)
  | .array items => do
    let row ← r.fields.take r.arrayTitle items.length 0 items
    .ok (r.build row)
  | v => mismatch v r.title

def encode (a : α) : Json :=
  ofFields (r.fields.encode (r.parts a))

end Record

end CloudApi.Json
