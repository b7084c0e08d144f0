import CloudApi.Error
import CloudApi.Json.Record

/-! Response bodies and the envelopes of lists.

A list comes as an object with its items under `results`, and with a `count` of all there are or
with `links` to other pages. A field that is missing or has another shape is an error and never
an empty list; only `count` and `links` may be absent or `null`. -/
namespace CloudApi.Envelope

open Json

/-- A link of a page: how it relates to the page and what it refers to. -/
structure Link where
  rel : String
  href : String
  deriving DecidableEq

def Link.record : Record Link where
  name := "Link"
  shape := [String, String]
  fields :=
    .cons (.required "rel" Decoder.string Json.string) <|
    .cons (.required "href" Decoder.string Json.string) .nil
  build := fun (rel, href, ()) => ⟨rel, href⟩
  parts := fun l => (l.rel, l.href, ())

/-- A failure of a decoder, after what was being read. -/
def explain {α : Type} (what : String) (r : Except DecodeError α) : Except Error α :=
  match r with
  | .ok a => .ok a
  | .error e => .error (.decode (what ++ ": " ++ e.message))

/-- The whole body. -/
def whole {α : Type} (decode : Decoder α) (body : Json) : Except Error α :=
  explain "Failed to decode response body" (decode body)

/-- The array under a label, its items as they are. -/
def slice (body : Json) (label : String) : Except Error (List Json) :=
  match body.get? label with
  | none => .error (.decode ("Response body has no " ++ cited label ++ " field"))
  | some (.array items) => .ok items
  | some _ => .error (.decode ("Field " ++ cited label ++ " is not an array"))

/-- The number of items under a label. -/
def sliceLength (body : Json) (label : String) : Except Error Nat :=
  (slice body label).map List.length

/-- The items under a label. -/
def items {α : Type} (decode : Decoder α) (body : Json) (label : String) :
    Except Error (List α) := do
  let vs ← slice body label
  explain ("Failed to decode " ++ cited label) (Decoder.items decode vs)

/-- The items of a page. -/
def results {α : Type} (decode : Decoder α) (body : Json) : Except Error (List α) :=
  items decode body "results"

def resultsLength (body : Json) : Except Error Nat :=
  sliceLength body "results"

/-- The number of all items there are, if the body tells. -/
def count (body : Json) : Except Error (Option UInt64) :=
  match body.get? "count" with
  | none | some .null => .ok none
  | some (.number (.natural n)) => .ok (some n)
  | some v => .error (.decode ("Field " ++ cited "count" ++ " is not a count: " ++ v.text))

def links (body : Json) : Except Error (List Link) :=
  match body.get? "links" with
  | none | some .null => .ok []
  | some _ => items Link.record.decode body "links"

/-- What the first link to a next page refers to. -/
def nextHref (links : List Link) : Option String :=
  (links.find? fun l => l.rel == "next").map Link.href

end CloudApi.Envelope
