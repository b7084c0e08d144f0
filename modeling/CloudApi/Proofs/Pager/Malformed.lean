import CloudApi.Proofs.Envelope
import CloudApi.Proofs.Pager.Readers

/-! Pages that are not what they should be.

A page has its items under `results` and, unless there are none, a continuation of its style; a
fetched body that is anything else is an error of the call (`CalledTimes.fetched_cases`), so that no list
with such a page in it is read to its end (`read_to_the_end`). The continuation of an empty page is
not looked at. -/
namespace CloudApi

namespace Page

/-- The items of a page as they came. -/
def Holds (p : Page) (vs : List Json) : Prop :=
  p.body.get? "results" = some (.array vs)

/-- The number of items fits in a word, where it is added to an offset. -/
def Fits (style : PageStyle) (vs : List Json) : Prop :=
  style = .offset → vs.length < UInt64.size

/-- A page with items that has a continuation of its style. -/
structure Full (style : PageStyle) (p : Page) (vs : List Json) : Prop where
  holds : p.Holds vs
  nonempty : vs ≠ []
  continues : Fits style vs → Envelope.Continues style p.body

/-- **A page that is read is full.** -/
theorem exists_full_of_read {style : PageStyle} {visited : List Url} {p q : Page}
    {next : Option Url} (h : Pager.read style visited p = .ok (some (q, next))) :
    ∃ vs, p.Full style vs := by
  obtain ⟨-, hempty, hnext, -⟩ := Pager.read_eq_page_iff.mp h
  obtain ⟨vs, hholds, hlength⟩ := isEmpty_eq_ok_iff.mp hempty
  have hnonempty : vs ≠ [] := fun hnil => by
    rw [hnil] at hlength
    cases hlength
  exact ⟨vs, hholds, hnonempty, fun hfits => continues_of_next hholds hnonempty hfits hnext⟩

/-- A page that comes to nothing is empty. -/
theorem holds_nil_of_read {style : PageStyle} {visited : List Url} {p : Page}
    (h : Pager.read style visited p = .ok none) : p.Holds [] := by
  obtain ⟨vs, hholds, hlength⟩ := isEmpty_eq_ok_iff.mp (Pager.read_eq_nothing_iff.mp h)
  obtain rfl := List.eq_nil_of_length_eq_zero (beq_iff_eq.mp hlength)
  exact hholds

/-- **Whatever is wrong with a page, it does not decode.** -/
theorem decode_of_read {style : PageStyle} {visited : List Url} {p : Page} {e : Error}
    (h : Pager.read style visited p = .error e) : ∃ reason, e = .decode reason := by
  rcases Pager.read_eq_error_iff.mp h with hempty | ⟨-, hnext | ⟨u, -, -, rfl⟩⟩
  · exact isEmpty_eq_error hempty
  · exact next_eq_error hnext
  · exact ⟨_, rfl⟩

end Page

namespace Pager
variable {σ α : Type}

section Calls
variable {t : Transport σ} {count : Nat} {result : Nat → Except Error (Option Page)}
  {pager : Nat → Pager} {world : Nat → World σ}
  (hcalled : CalledTimes t count result pager world) {style : PageStyle} {first : Url}
  (hstart : pager 0 = start style first) {n : Nat} (hn : n < count)

include hcalled hstart hn in
/-- What a fetched body comes to is the result of the call. -/
theorem CalledTimes.result_eq {url : Url} {fetched : Except Error Json} {after : World σ}
    (hurl : (pager n).pending = some url)
    (hget : Session.run (t.get url) (world n) = .ok (fetched, after)) :
    world (n + 1) = after ∧ result n = (fetched.bind fun body =>
      read style (url :: (pager n).visited) ⟨url, body⟩).map (Option.map Prod.fst) := by
  have hrun := (hcalled n hn).symm.trans (run_nextPage_of_pending t hurl hget)
  obtain ⟨hturn, hafter⟩ := Prod.mk.inj (Except.ok.inj hrun)
  have hresult := congrArg Prod.fst (Except.ok.inj hturn)
  rw [turn_fst, (hcalled.sound hstart hn.le).style_eq] at hresult
  exact ⟨hafter, hresult⟩

include hcalled hstart hn in
/-- **A fetched body is a page with items, the end of the list or not decoded.** -/
theorem CalledTimes.fetched_cases (page : Page) {after : World σ}
    (hurl : (pager n).pending = some page.url)
    (hget : Session.run (t.get page.url) (world n) = .ok (.ok page.body, after)) :
    (result n = .ok (some page) ∧ ∃ vs, page.Full style vs) ∨
      (result n = .ok none ∧ page.Holds []) ∨
      ∃ reason, result n = .error (.decode reason) := by
  obtain ⟨-, hresult⟩ := hcalled.result_eq hstart hn hurl hget
  change _ = Except.map _ (read style _ page) at hresult
  rcases hread : read style (page.url :: (pager n).visited) page with e | _ | ⟨q, next⟩
  · obtain ⟨reason, rfl⟩ := Page.decode_of_read hread
    rw [hread] at hresult
    exact .inr (.inr ⟨reason, hresult⟩)
  · rw [hread] at hresult
    exact .inr (.inl ⟨hresult, Page.holds_nil_of_read hread⟩)
  · obtain ⟨rfl, -⟩ := read_eq_page_iff.mp hread
    rw [hread] at hresult
    exact .inl ⟨hresult, Page.exists_full_of_read hread⟩

end Calls

/-! ### Reading to the end -/

/-- All pages or all items are read, and none is missing. -/
def ReadsToTheEnd (t : Transport σ) (decode : Json.Decoder α) (rounds : Nat) (first : Pager)
    (w after : World σ) : Prop :=
  (∃ pages, Session.run (allPages t rounds first) w = .ok (.ok pages, after)) ∨
    ∃ found, Session.run (allItems t decode rounds first) w = .ok (.ok found, after)

section Reading
variable {t : Transport σ} {decode : Json.Decoder α} {rounds : Nat} {first : Pager}
  {w after : World σ}

/-- What is gathered without an error comes from calls up to one that gives nothing. -/
theorem calls_of_gathered {τ : Type} {visit : τ → Page → Except Error Bool × τ} {seen found : τ}
    (hgoes : ∀ seen page, (visit seen page).1 ≠ .ok false)
    (h : Session.run (eachPage t visit rounds seen first >>= fun (outcome, found) =>
      Session.ofExcept (outcome.map fun () => found)) w = .ok (.ok found, after)) :
    ∃ last result pager world, CallsUpTo t first w last result pager world ∧
      result last = .ok none ∧ world (last + 1) = after := by
  rcases calls_of_eachPage visit seen t hgoes rounds first w with ⟨why, hhalts⟩ |
    ⟨last, outcome, kept, result, pager, world, hcalls, hends, hvisited⟩
  · cases (Session.run_bind_halt hhalts).symm.trans h
  · obtain ⟨houtcome, hafter⟩ :=
      Prod.mk.inj (Except.ok.inj ((Session.run_bind_ok hvisited).symm.trans h))
    cases outcome with
    | error e => cases houtcome
    | ok => exact ⟨last, result, pager, world, hcalls, hends rfl, hafter⟩

/-- What is read to the end are calls up to one that gives nothing. -/
theorem ReadsToTheEnd.calls (h : ReadsToTheEnd t decode rounds first w after) :
    ∃ last result pager world, CallsUpTo t first w last result pager world ∧
      result last = .ok none ∧ world (last + 1) = after := by
  rcases h with ⟨pages, hpages⟩ | ⟨found, hitems⟩
  · refine calls_of_gathered ?_ hpages
    exact fun _ _ => nofun
  · refine calls_of_gathered ?_ hitems
    intro found page
    cases page.items decode <;> exact nofun

end Reading

section Run
variable {t : Transport σ} {style : PageStyle} {first : Url}

/-- A call that gives nothing had nothing to fetch, or fetched a page without items. -/
theorem CalledTimes.empty_of_nothing {count : Nat} {result : Nat → Except Error (Option Page)}
    {pager : Nat → Pager} {world : Nat → World σ} (hcalled : CalledTimes t count result pager world)
    (hstart : pager 0 = start style first) {n : Nat} (hn : n < count) (hnothing : result n = .ok none) :
    ((pager n).pending = none ∧ world (n + 1) = world n) ∨
      ∃ page : Page, (pager n).pending = some page.url ∧
        Session.run (t.get page.url) (world n) = .ok (.ok page.body, world (n + 1)) ∧
        page.Holds [] := by
  rcases run_nextPage_cases (hcalled n hn) with ⟨hnone, -, -, hsame⟩ |
    ⟨url, e | body, hurl, hget, -⟩
  · exact .inl ⟨hnone, hsame⟩
  · obtain ⟨-, hresult⟩ := hcalled.result_eq hstart hn hurl hget
    cases hnothing.symm.trans hresult
  · refine .inr ⟨⟨url, body⟩, hurl, hget, ?_⟩
    rcases hcalled.fetched_cases hstart hn ⟨url, body⟩ hurl hget with ⟨hpage, -⟩ |
      ⟨-, hempty⟩ | ⟨_, herror⟩
    · cases hnothing.symm.trans hpage
    · exact hempty
    · cases hnothing.symm.trans herror

/-- Fetched pages of a list up to its end: each has items and a continuation of its style, and the
last one, if there is one, has no items. -/
structure FullUpTo (t : Transport σ) (style : PageStyle) (last : Nat) (pager : Nat → Pager)
    (world : Nat → World σ) : Prop where
  full : ∀ n < last, ∃ page : Page, ∃ vs, (pager n).pending = some page.url ∧
    Session.run (t.get page.url) (world n) = .ok (.ok page.body, world (n + 1)) ∧ page.Full style vs
  ends : ((pager last).pending = none ∧ world (last + 1) = world last) ∨
    ∃ page : Page, (pager last).pending = some page.url ∧
      Session.run (t.get page.url) (world last) = .ok (.ok page.body, world (last + 1)) ∧
      page.Holds []

/-- **What is not a page of the list is not taken for its end.** A fetched body that neither has
items and a continuation nor has an empty list of items is an error of the call. So all pages or all
items come to something only after pages with items and a continuation of their style, and at most
one page without items, whose continuation may be anything. -/
theorem read_to_the_end :
    (∀ count result pager (world : Nat → World σ), CalledTimes t count result pager world →
      pager 0 = start style first → ∀ n < count, ∀ (page : Page) after,
        (pager n).pending = some page.url →
        Session.run (t.get page.url) (world n) = .ok (.ok page.body, after) →
        ¬ page.Holds [] → (¬ ∃ vs, page.Full style vs) →
        ∃ reason, result n = .error (.decode reason)) ∧
    ∀ (α : Type) (decode : Json.Decoder α) rounds w after,
      ReadsToTheEnd t decode rounds (start style first) w after →
      ∃ last result pager world, CallsUpTo t (start style first) w last result pager world ∧
        FullUpTo t style last pager world ∧ world (last + 1) = after := by
  constructor
  · intro count result pager world hcalled hstart n hn page after hurl hget hempty hfull
    rcases hcalled.fetched_cases hstart hn page hurl hget with ⟨-, h⟩ | ⟨-, h⟩ | h
    · exact absurd h hfull
    · exact absurd h hempty
    · exact h
  · intro α decode rounds w after h
    obtain ⟨last, result, pager, world, hcalls, hnothing, hafter⟩ := h.calls
    refine ⟨last, result, pager, world, hcalls, ⟨fun n hn => ?_, ?_⟩, hafter⟩
    · obtain ⟨page, hpage⟩ := hcalls.page n hn
      have hturned := turned_of_run (hcalls.called n (Nat.lt_succ_of_lt hn))
      rw [hpage] at hturned
      cases hturned with
      | page pending get _ _ =>
        have hcases :=
          hcalls.called.fetched_cases hcalls.first (Nat.lt_succ_of_lt hn) page pending get
        rcases hcases with ⟨-, vs, hfull⟩ | ⟨h, -⟩ | ⟨_, h⟩
        · exact ⟨page, vs, pending, get, hfull⟩
        · cases hpage.symm.trans h
        · cases hpage.symm.trans h
    · exact hcalls.called.empty_of_nothing hcalls.first last.lt_succ_self hnothing

end Run

/-! ### Continuations of empty pages -/

/-- An empty page whose links are a number. -/
def strayLinks : Json :=
  .object [("links", .number (.natural 5)), ("results", .array [])]

/-- An empty page whose count is a text. -/
def strayCount : Json :=
  .object [("count", .string "lots"), ("results", .array [])]

/-- A page of letters, and behind it an empty one with stray links. -/
def lettersThenStray : Server Unit := fun peer request =>
  (⟨1, .ok (if request.url = lettersUrl then lettersPage.body else strayLinks)⟩, peer)

/-- A page of letters and an empty one are read to the end; a page without items is not taken for
it. -/
theorem read_to_the_end_of_letters :
    let w : World Unit := ⟨0, [], [], ()⟩
    let first := start .linked lettersUrl
    (∃ after last result pager world,
      ReadsToTheEnd lettersThenStray.transport Json.Decoder.string 2 first w after ∧
      CallsUpTo lettersThenStray.transport first w last result pager world ∧
      FullUpTo lettersThenStray.transport .linked last pager world ∧ world (last + 1) = after) ∧
    ∃ result pager world, CalledTimes letters.transport 2 result pager world ∧ pager 0 = first ∧
      ∃ reason, result 1 = .error (.decode reason) := by
  intro w first
  constructor
  · have hpages : ∃ after, ReadsToTheEnd lettersThenStray.transport Json.Decoder.string 2 first w
        after := ⟨_, .inl ⟨[lettersPage], by rfl⟩⟩
    obtain ⟨after, h⟩ := hpages
    obtain ⟨last, result, pager, world, hcalls⟩ := read_to_the_end.2 _ _ _ _ _ h
    exact ⟨after, last, result, pager, world, h, hcalls⟩
  · let run (n : Nat) := Pager.after letters .linked lettersUrl w n
    have hcalled : CalledTimes letters.transport 2 (fun n => (call letters (run n).1 (run n).2).1.1)
        (fun n => (run n).1) fun n => (run n).2 :=
      fun n _ => runs_after letters .linked lettersUrl w n
    refine ⟨_, _, _, hcalled, rfl, ?_⟩
    let page : Page := ⟨serviceUrl ["v1", "more"], .object [("results", .null)]⟩
    have hnull (vs : List Json) : ¬ page.Holds vs := nofun
    exact read_to_the_end.1 _ _ _ _ hcalled rfl 1 Nat.one_lt_two page _
      (by decide +kernel) (Server.run_get _ _ _) (hnull []) fun ⟨vs, hfull⟩ => hnull vs hfull.holds

/-- A list may end with an empty page that has no continuation of its style. -/
theorem stray_continuation_ends_list :
    let w : World Unit := ⟨0, [], [], ()⟩
    let service (body : Json) : Server Unit := fun peer _ => (⟨1, .ok body⟩, peer)
    (¬ Envelope.Continues .linked strayLinks ∧ ¬ Envelope.Continues .offset strayCount) ∧
    (Session.run (allPages (service strayLinks).transport 1 (start .linked lettersUrl)) w).map
        (fun (outcome, after) => (outcome, after.sent.length)) = .ok (.ok [], 1) ∧
    (Session.run (allItems (service strayCount).transport Json.Decoder.string 1
        (start .offset lettersUrl)) w).map
        (fun (outcome, after) => (outcome, after.sent.length)) = .ok (.ok [], 1) := by
  refine ⟨⟨?links, ?count⟩, ?pages, ?items⟩
  case links => rintro (h | h | ⟨vs, h, -⟩) <;> cases h
  case count => rintro (h | h | ⟨n, h⟩) <;> cases h
  case pages => decide +kernel
  case items => decide +kernel

end Pager

end CloudApi
