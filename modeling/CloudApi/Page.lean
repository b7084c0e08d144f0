import CloudApi.Envelope
import CloudApi.Url.Form
import CloudApi.Url.Reference

/-! Pages of a list.

A page is the URL it was fetched from and its body. Where the next page lives is read from it in
one of two styles: a link to follow, or the offset of the page moved on by the items it holds. -/
namespace CloudApi

structure Page where
  url : Url
  body : Json
  deriving DecidableEq

inductive PageStyle where
  /-- The first link called `next` leads on, seen from the page. -/
  | linked
  /-- The next page begins behind the items of this one, until `count` is reached. -/
  | offset
  deriving DecidableEq

namespace Page

open Text

def isEmpty (p : Page) : Except Error Bool :=
  (Envelope.resultsLength p.body).map (· == 0)

def items {α : Type} (decode : Json.Decoder α) (p : Page) : Except Error (List α) :=
  Envelope.results decode p.body

/-- The offset the page was asked for at. -/
def offset (p : Page) : UInt64 :=
  (p.url.numericParam "offset").getD 0

/-- The number of all items there are, if the page tells. -/
def totalCount (p : Page) : Except Error (Option UInt64) :=
  Envelope.count p.body

def nextLinked (p : Page) : Except Error (Option Url) := do
  match Envelope.nextHref (← Envelope.links p.body) with
  | none => .ok none
  | some href =>
    match p.url.join href with
    | .ok u => .ok (some u)
    | .error e => .error (.decode ("Invalid next link `" ++ href ++ "`: " ++ e.message))

/-- Whether a page that ends at `reached` is the last one. Without a count it is when it has
fewer items than were asked for. -/
def endsAt (p : Page) (reached : UInt64) (returned : UInt64) : Option UInt64 → Bool
  | some total => total ≤ reached
  | none =>
    match p.url.numericParam "limit" with
    | some limit => returned < limit
    | none => true

def nextOffset (p : Page) : Except Error (Option Url) := do
  let returned := (← Envelope.resultsLength p.body).toUInt64
  if returned = 0 then .ok none
  else
    let reached := p.offset + returned
    if p.endsAt reached returned (← p.totalCount) then .ok none
    else .ok (some (p.url.replaceParam "offset" (Numeral.decimalText reached.toNat)))

/-- The URL of the next page, if there is one. -/
def next (style : PageStyle) (p : Page) : Except Error (Option Url) :=
  match style with
  | .linked => p.nextLinked
  | .offset => p.nextOffset

end Page

end CloudApi
