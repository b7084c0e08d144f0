import CloudApi.Page
import CloudApi.Session
import CloudApi.Text.Quoted

/-! Walking through the pages of a list.

A pager fetches one page at a time, in the order the server sets, and none ahead of need. It is
over after the last page, after an empty one and after an error; a page that leads back to one
fetched before is an error. -/
namespace CloudApi

/-- Where a pager stands between two calls. There is no state for a fetch under way: a call goes on
until its fetch has come to something, and nobody sees the pager before. -/
inductive PagerState where
  | created | yieldedPage | exhausted | errored
  deriving DecidableEq

namespace PagerState

def name : PagerState → String
  | created => "Created"
  | yieldedPage => "YieldedPage"
  | exhausted => "Exhausted"
  | errored => "Errored"

/-- Whether no further request is made. -/
def isTerminal : PagerState → Bool
  | exhausted | errored => true
  | _ => false

end PagerState

structure Pager where
  style : PageStyle
  nextUrl : Option Url
  state : PagerState
  /-- The URLs fetched, last one first. -/
  visited : List Url
  deriving DecidableEq

namespace Pager

open Text

variable {σ : Type}

def start (style : PageStyle) (url : Url) : Pager :=
  ⟨style, some url, .created, []⟩

/-- What a body fetched from a URL comes to: a page and where it leads on, or nothing if it is
empty. -/
def read (style : PageStyle) (visited : List Url) (p : Page) :
    Except Error (Option (Page × Option Url)) := do
  if ← p.isEmpty then .ok none
  else
    let next ← p.next style
    match next with
    | none => .ok (some (p, none))
    | some u =>
      if visited.contains u then
        .error (.decode ("Page `" ++ p.url.text ++ "` points back to already fetched page `" ++
          u.text ++ "`"))
      else .ok (some (p, some u))

/-- Fetches the next page. The pager after it is given back with an error too. -/
def nextPage (t : Transport σ) (pager : Pager) :
    Session σ (Except Error (Option Page) × Pager) := do
  if pager.state.isTerminal then return (.ok none, pager)
  else match pager.nextUrl with
  | none => return (.ok none, { pager with state := .exhausted })
  | some url =>
    let visited := url :: pager.visited
    let ended (state : PagerState) : Pager := { pager with nextUrl := none, state, visited }
    let body ← Session.attempt (t.get url)
    match body.bind fun body => read pager.style visited ⟨url, body⟩ with
    | .ok (some (page, next)) =>
      return (.ok (some page), { pager with nextUrl := next, state := .yieldedPage, visited })
    | .ok none => return (.ok none, ended .exhausted)
    | .error e => return (.error e, ended .errored)

/-- Shows the pages to a visitor one after the other, until it says no, the pages end or
something fails. The visitor keeps a state of its own, which is given back in any case. -/
def eachPage {τ : Type} (t : Transport σ) (visit : τ → Page → Except Error Bool × τ) :
    (rounds : Nat) → τ → Pager → Session σ (Except Error Unit × τ)
  | 0, _, _ => Session.halt .unfinished
  | rounds + 1, seen, pager => do
    match ← nextPage t pager with
    | (.error e, _) => return (.error e, seen)
    | (.ok none, _) => return (.ok (), seen)
    | (.ok (some page), pager) =>
      match visit seen page with
      | (.error e, seen) => return (.error e, seen)
      | (.ok false, seen) => return (.ok (), seen)
      | (.ok true, seen) => eachPage t visit rounds seen pager

/-- All pages. -/
def allPages (t : Transport σ) (rounds : Nat) (pager : Pager) : Session σ (List Page) := do
  let (outcome, pages) ← eachPage t (fun pages page => (.ok true, pages ++ [page])) rounds [] pager
  Session.ofExcept (outcome.map fun () => pages)

/-- The items of all pages. -/
def allItems {α : Type} (t : Transport σ) (decode : Json.Decoder α) (rounds : Nat)
    (pager : Pager) : Session σ (List α) := do
  let collect (found : List α) (page : Page) : Except Error Bool × List α :=
    match page.items decode with
    | .ok items => (.ok true, found ++ items)
    | .error e => (.error e, found)
  let (outcome, found) ← eachPage t collect rounds [] pager
  Session.ofExcept (outcome.map fun () => found)

/-- One step of the pages as a stream: the next page or the error that ends it, then nothing. -/
def nextOfStream (t : Transport σ) (pager : Pager) :
    Session σ (Option (Except Error Page) × Pager) := do
  match ← nextPage t pager with
  | (.error e, pager) => return (some (.error e), pager)
  | (.ok none, pager) => return (none, pager)
  | (.ok (some page), pager) => return (some (.ok page), pager)

/-- Up to `limit` entries of the stream; the end counts as one, shown as nothing. -/
def streamed (t : Transport σ) : (limit : Nat) → Pager → Session σ (List (Option (Except Error Page)))
  | 0, _ => return []
  | limit + 1, pager => do
    match ← nextOfStream t pager with
    | (none, _) => return [none]
    | (some entry, pager) => return some entry :: (← streamed t limit pager)

/-- How a pager shows in messages. -/
def text (pager : Pager) : String :=
  let next := match pager.nextUrl with
    | some u => "Some(" ++ Quoted.quote u.text ++ ")"
    | none => "None"
  "Pager \x7b next_url: " ++ next ++ ", state: " ++ pager.state.name ++ ", visited: " ++
    Numeral.decimalText pager.visited.length ++ ", .. \x7d"

end Pager

end CloudApi
