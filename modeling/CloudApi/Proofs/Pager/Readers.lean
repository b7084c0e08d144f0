import CloudApi.Proofs.Pager.Calls

/-! All ways to read a list agree.

A pager that is called over and over gives pages and then ends, well or with an error (`Called`,
`Yields`). Showing the pages to a visitor, gathering them, gathering their items and streaming them
all make the calls of that run, in order and none ahead of need: each comes to an end in the world
after a call, so that it has fetched what the first calls fetch and nothing else
(`readers_agree`). -/
namespace CloudApi

namespace Pager
variable {σ τ α : Type}

/-! ### A run of calls -/

/-- A pager that is called over and over, over any transport: the results, the pagers between the
calls and the worlds between them. -/
def Called (t : Transport σ) (result : Nat → Except Error (Option Page)) (pager : Nat → Pager)
    (world : Nat → World σ) : Prop :=
  ∀ n, Session.run (nextPage t (pager n)) (world n) =
    .ok (.ok (result n, pager (n + 1)), world (n + 1))

/-- A pager that is called a number of times, each of which comes to something. -/
def CalledTimes (t : Transport σ) (count : Nat) (result : Nat → Except Error (Option Page))
    (pager : Nat → Pager) (world : Nat → World σ) : Prop :=
  ∀ n < count, Session.run (nextPage t (pager n)) (world n) =
    .ok (.ok (result n, pager (n + 1)), world (n + 1))

/-- The calls give pages, and then they end. -/
structure Yields (result : Nat → Except Error (Option Page)) (pages : List Page)
    (ending : Except Error Unit) : Prop where
  page : ∀ n (h : n < pages.length), result n = .ok (some pages[n])
  ends : result pages.length = ending.map fun () => none

/-- What a call does: nothing where there is nothing to fetch, or it fetches a URL and gives the page
there, the end of the list or an error. Only a page leads on. -/
inductive Turned (t : Transport σ) (pager next : Pager) (w after : World σ) :
    Except Error (Option Page) → Prop where
  | idle (pending : pager.pending = none) (rests : next.pending = none) (same : after = w) :
    Turned t pager next w after (.ok none)
  | page {page : Page} (pending : pager.pending = some page.url)
    (get : Session.run (t.get page.url) w = .ok (.ok page.body, after))
    (full : page.isEmpty = .ok false) (leads : page.next pager.style = .ok next.pending) :
    Turned t pager next w after (.ok (some page))
  | ended {url : Url} {fetched : Except Error Json} (pending : pager.pending = some url)
    (get : Session.run (t.get url) w = .ok (fetched, after)) (rests : next.pending = none) :
    Turned t pager next w after (.ok none)
  | failed {url : Url} {fetched : Except Error Json} {e : Error} (pending : pager.pending = some url)
    (get : Session.run (t.get url) w = .ok (fetched, after)) (rests : next.pending = none) :
    Turned t pager next w after (.error e)

/-- After a call that fetched nothing there is nothing to fetch. -/
theorem pending_rest {pager : Pager} (h : pager.pending = none) : pager.rest.pending = none := by
  unfold rest
  split
  · exact h
  · rfl

section Turned
variable {t : Transport σ} {pager next : Pager} {w after : World σ}
  {result : Except Error (Option Page)}

theorem turned_of_run
    (h : Session.run (nextPage t pager) w = .ok (.ok (result, next), after)) :
    Turned t pager next w after result := by
  rcases run_nextPage_cases h with ⟨hnone, rfl, rfl, rfl⟩ | ⟨url, fetched, hurl, hget, hturn⟩
  · exact .idle hnone (pending_rest hnone) rfl
  rcases pager.turn_cases url fetched with ⟨body, following, rfl, hread, heq⟩ | ⟨_, -, -, heq⟩ |
    ⟨_, -, heq⟩
  · obtain ⟨rfl, rfl⟩ := Prod.mk.inj (heq.symm.trans hturn)
    obtain ⟨-, hfull, hnext, -⟩ := read_eq_page_iff.mp hread
    exact .page hurl hget hfull hnext
  · obtain ⟨rfl, rfl⟩ := Prod.mk.inj (heq.symm.trans hturn)
    exact .ended hurl hget rfl
  · obtain ⟨rfl, rfl⟩ := Prod.mk.inj (heq.symm.trans hturn)
    exact .failed hurl hget rfl

/-- What is fetched after a call is what the page that the call gave leads to. -/
theorem Turned.leads_of_pending {u : Url} (h : Turned t pager next w after result)
    (hu : next.pending = some u) : ∃ page, result = .ok (some page) ∧
      pager.pending = some page.url ∧ page.next pager.style = .ok (some u) := by
  cases h with
  | idle _ rests => cases rests.symm.trans hu
  | page pending _ _ leads => exact ⟨_, rfl, pending, hu ▸ leads⟩
  | ended _ _ rests => cases rests.symm.trans hu
  | failed _ _ rests => cases rests.symm.trans hu

end Turned

section Called
variable {t : Transport σ} {result : Nat → Except Error (Option Page)} {pager : Nat → Pager}
  {world : Nat → World σ} (hcalled : Called t result pager world)

include hcalled in
/-- Each call does what its result tells. -/
theorem Called.turned (n : Nat) :
    Turned t (pager n) (pager (n + 1)) (world n) (world (n + 1)) (result n) :=
  turned_of_run (hcalled n)

include hcalled in
/-- A call that gives a page has fetched it. -/
theorem Called.get_of_page {n : Nat} {page : Page} (h : result n = .ok (some page)) :
    (pager n).pending = some page.url ∧
      Session.run (t.get page.url) (world n) = .ok (.ok page.body, world (n + 1)) := by
  have hturned := hcalled.turned n
  rw [h] at hturned
  cases hturned with
  | page pending get => exact ⟨pending, get⟩

include hcalled in
/-- Any call fetches one URL or nothing. -/
theorem Called.get_or_nothing (n : Nat) :
    world (n + 1) = world n ∨ ∃ url fetched,
      Session.run (t.get url) (world n) = .ok (fetched, world (n + 1)) := by
  have hturned := hcalled.turned n
  generalize result n = r at hturned
  cases hturned with
  | idle _ _ same => exact .inl same
  | page _ get => exact .inr ⟨_, _, get⟩
  | ended _ get => exact .inr ⟨_, _, get⟩
  | failed _ get => exact .inr ⟨_, _, get⟩

include hcalled in
/-- After an error there is nothing to fetch. -/
theorem Called.pending_of_error {n : Nat} {e : Error} (h : result n = .error e) :
    (pager (n + 1)).pending = none := by
  have hturned := hcalled.turned n
  rw [h] at hturned
  cases hturned with
  | failed _ _ rests => exact rests

include hcalled in
theorem Called.pending_succ {n : Nat} {u : Url} (h : (pager (n + 1)).pending = some u) :
    ∃ page, result n = .ok (some page) ∧ (pager n).pending = some page.url ∧
      page.next (pager n).style = .ok (some u) :=
  (hcalled.turned n).leads_of_pending h

include hcalled in
theorem Called.style_eq (n : Nat) : (pager n).style = (pager 0).style := by
  induction n with
  | zero => rfl
  | succ n ih =>
    rw [← ih]
    rcases run_nextPage_cases (hcalled n) with ⟨-, -, hrest, -⟩ | ⟨url, fetched, -, -, hturn⟩
    · rw [hrest]
      unfold rest
      split <;> rfl
    · rcases (pager n).turn_cases url fetched with ⟨_, _, -, -, heq⟩ | ⟨_, -, -, heq⟩ | ⟨_, -, heq⟩ <;>
        exact (Prod.mk.inj (heq.symm.trans hturn)).2 ▸ rfl

end Called

/-- **The pagers between calls are sound**, over any transport. -/
theorem CalledTimes.sound {t : Transport σ} {count : Nat}
    {result : Nat → Except Error (Option Page)} {pager : Nat → Pager} {world : Nat → World σ}
    (hcalled : CalledTimes t count result pager world) {style : PageStyle} {first : Url}
    (hstart : pager 0 = start style first) {n : Nat} (hle : n ≤ count) :
    Sound style (fetched pager n) (pager n) := by
  induction n with
  | zero => exact hstart ▸ sound_start style first
  | succ n ih =>
    have hsound := ih (by omega)
    have hpending := hsound.pending_eq
    rw [fetched_succ, ← hpending]
    rcases run_nextPage_cases (hcalled n hle) with ⟨hnone, -, hrest, -⟩ |
      ⟨url, body, hurl, -, hturn⟩
    · rw [hnone, hrest, Option.toList_none, List.append_nil]
      exact hsound.rest hnone
    · rw [hurl, ← (Prod.mk.inj hturn).2]
      exact hsound.turn hurl body

/-- A sequence with one entry more in front. -/
def prepend {β : Type} (b : β) (rest : Nat → β) : Nat → β
  | 0 => b
  | n + 1 => rest n

/-- The calls of a pager up to one that may be the last: all before it gave pages. -/
structure CallsUpTo (t : Transport σ) (first : Pager) (w : World σ) (last : Nat)
    (result : Nat → Except Error (Option Page)) (pager : Nat → Pager) (world : Nat → World σ) :
    Prop where
  first : pager 0 = first
  begins : world 0 = w
  called : CalledTimes t (last + 1) result pager world
  page : ∀ n < last, ∃ page, result n = .ok (some page)

section CallsUpTo
variable {t : Transport σ} {first next : Pager} {w mid : World σ}

theorem CallsUpTo.last {r : Except Error (Option Page)}
    (hcall : Session.run (nextPage t first) w = .ok (.ok (r, next), mid)) :
    CallsUpTo t first w 0 (fun _ => r) (prepend first fun _ => next)
      (prepend w fun _ => mid) where
  first := rfl
  begins := rfl
  called _ hn := Nat.lt_one_iff.mp hn ▸ hcall
  page n hn := absurd hn n.not_lt_zero

/-- A call that gives a page, and then the calls of the pager after it. -/
theorem CallsUpTo.cons {page : Page} {last : Nat} {result : Nat → Except Error (Option Page)}
    {pager : Nat → Pager} {world : Nat → World σ}
    (hcall : Session.run (nextPage t first) w = .ok (.ok (.ok (some page), next), mid))
    (h : CallsUpTo t next mid last result pager world) :
    CallsUpTo t first w (last + 1) (prepend (.ok (some page)) result) (prepend first pager)
      (prepend w world) where
  first := rfl
  begins := rfl
  called n hn := by
    cases n with
    | zero =>
      obtain ⟨rfl, rfl⟩ := And.intro h.first h.begins
      exact hcall
    | succ n => exact h.called n (Nat.lt_of_succ_lt_succ hn)
  page n hn := by
    cases n with
    | zero => exact ⟨page, rfl⟩
    | succ n => exact h.page n (Nat.lt_of_succ_lt_succ hn)

end CallsUpTo

/-- A call comes to something if its GET does. -/
theorem exists_run_nextPage_or_halt (t : Transport σ) (pager : Pager) (w : World σ) :
    (∃ why, Session.run (nextPage t pager) w = .error why) ∨ ∃ result next after,
      Session.run (nextPage t pager) w = .ok (.ok (result, next), after) := by
  cases hurl : pager.pending with
  | none => exact .inr ⟨_, _, _, run_nextPage_of_no_pending t hurl w⟩
  | some url =>
    cases hget : Session.run (t.get url) w with
    | error why =>
      have hattempt : Session.run (Session.attempt (t.get url)) w = .error why := by
        rw [Session.run_attempt, hget]
        rfl
      rw [nextPage_of_pending t hurl]
      exact .inl ⟨why, Session.run_bind_halt hattempt⟩
    | ok got => exact .inr ⟨_, _, _, run_nextPage_of_pending t hurl hget⟩

section Total
variable {t : Transport σ}
  (htotal : ∀ url w, ∃ fetched after, Session.run (t.get url) w = .ok (fetched, after))

include htotal in
theorem exists_run_nextPage (pager : Pager) (w : World σ) :
    ∃ result next after, Session.run (nextPage t pager) w = .ok (.ok (result, next), after) := by
  cases hurl : pager.pending with
  | none => exact ⟨_, _, _, run_nextPage_of_no_pending t hurl w⟩
  | some url =>
    obtain ⟨fetched, after, hget⟩ := htotal url w
    exact ⟨_, _, _, run_nextPage_of_pending t hurl hget⟩

include htotal in
/-- Where every GET comes to something, a pager can be called over and over. -/
theorem exists_called (first : Pager) (w : World σ) :
    ∃ result pager world, pager 0 = first ∧ world 0 = w ∧ Called t result pager world := by
  choose result next after hcall using exists_run_nextPage htotal
  let step (s : Pager × World σ) : Pager × World σ := (next s.1 s.2, after s.1 s.2)
  refine ⟨fun n => result (step^[n] (first, w)).1 (step^[n] (first, w)).2,
    fun n => (step^[n] (first, w)).1, fun n => (step^[n] (first, w)).2, rfl, rfl, fun n => ?_⟩
  dsimp only
  rw [Function.iterate_succ_apply']
  exact hcall _ _

end Total

/-! ### Visitors -/

/-- The state of a visitor before a page, after all the pages ahead of it were shown. -/
def before (visit : τ → Page → Except Error Bool × τ) (seen : τ) (pages : List Page) (n : Nat) : τ :=
  (pages.take n).foldl (fun seen page => (visit seen page).2) seen

/-- What a visitor says to a page after it was shown the pages ahead of it. -/
def reply (visit : τ → Page → Except Error Bool × τ) (seen : τ) (pages : List Page) (n : Nat)
    (h : n < pages.length) : Except Error Bool :=
  (visit (before visit seen pages n) pages[n]).1

section Visit
variable {t : Transport σ} {result : Nat → Except Error (Option Page)} {pager : Nat → Pager}
  {world : Nat → World σ} (hcalled : Called t result pager world) {pages : List Page}
  {ending : Except Error Unit} (hyields : Yields result pages ending)
  (visit : τ → Page → Except Error Bool × τ) (seen : τ)

theorem before_succ {n : Nat} (h : n < pages.length) :
    before visit seen pages (n + 1) = (visit (before visit seen pages n) pages[n]).2 := by
  unfold before
  rw [List.take_succ_eq_append_getElem h, List.foldl_append]
  rfl

include hcalled hyields in
/-- Up to a page to which the visitor does not say that it goes on, each page is one call. -/
theorem run_eachPage_of_goes {n : Nat} (hle : n ≤ pages.length)
    (hgoes : ∀ i (h : i < n), reply visit seen pages i (h.trans_le hle) = .ok true) (rounds : Nat) :
    Session.run (eachPage t visit (n + rounds) seen (pager 0)) (world 0) =
      Session.run (eachPage t visit rounds (before visit seen pages n) (pager n)) (world n) := by
  induction n generalizing rounds with
  | zero => rw [Nat.zero_add]; rfl
  | succ n ih =>
    have hsaid := hgoes n n.lt_succ_self
    rw [Nat.succ_add_eq_add_succ, ih (by omega) (fun i hi => hgoes i (by omega)),
      run_eachPage_succ _ _ _ (hcalled n), hyields.page n hle, before_succ visit seen hle]
    unfold reply at hsaid
    dsimp only
    rcases hvisit : visit (before visit seen pages n) pages[n] with ⟨said, after⟩
    rw [hvisit] at hsaid
    cases hsaid
    rfl

include hcalled hyields in
/-- A page to which the visitor does not say that it goes on is the last one. -/
theorem run_eachPage_stops {n : Nat} (h : n < pages.length)
    (hbefore : ∀ i (hi : i < n), reply visit seen pages i (hi.trans h) = .ok true)
    (hstop : reply visit seen pages n h ≠ .ok true) {rounds : Nat} (hrounds : n < rounds) :
    Session.run (eachPage t visit rounds seen (pager 0)) (world 0) =
      .ok (.ok ((reply visit seen pages n h).map fun _ => (), before visit seen pages (n + 1)),
        world (n + 1)) := by
  obtain ⟨rounds, rfl⟩ : ∃ r, rounds = n + (r + 1) := ⟨rounds - n - 1, by omega⟩
  rw [run_eachPage_of_goes hcalled hyields visit seen h.le hbefore, run_eachPage_succ _ _ _ (hcalled n),
    hyields.page n h, before_succ visit seen h]
  unfold reply at hstop ⊢
  dsimp only
  rcases hvisit : visit (before visit seen pages n) pages[n] with ⟨e | _ | _, after⟩
  · rfl
  · rfl
  · rw [hvisit] at hstop
    exact absurd rfl hstop

include hcalled hyields in
/-- If the visitor always goes on, the pages end as the calls do. -/
theorem run_eachPage_ends
    (hall : ∀ i (hi : i < pages.length), reply visit seen pages i hi = .ok true)
    {rounds : Nat} (hrounds : pages.length < rounds) :
    Session.run (eachPage t visit rounds seen (pager 0)) (world 0) =
      .ok (.ok (ending, before visit seen pages pages.length), world (pages.length + 1)) := by
  obtain ⟨rounds, rfl⟩ : ∃ r, rounds = pages.length + (r + 1) :=
    ⟨rounds - pages.length - 1, by omega⟩
  rw [run_eachPage_of_goes hcalled hyields visit seen le_rfl hall,
    run_eachPage_succ _ _ _ (hcalled pages.length), hyields.ends]
  cases ending <;> rfl

include hcalled in
/-- Whatever the visitor does, the pages shown to it end with a call after calls that gave pages, or
there are more of them than rounds. -/
theorem run_eachPage_cases (n rounds : Nat) :
    (∃ m outcome last, n ≤ m ∧ m < n + rounds ∧ (∀ i, n ≤ i → i < m → ∃ page,
        result i = .ok (some page)) ∧
      Session.run (eachPage t visit rounds seen (pager n)) (world n) =
        .ok (.ok (outcome, last), world (m + 1))) ∨
    (∀ i, n ≤ i → i < n + rounds → ∃ page, result i = .ok (some page)) ∧
      Session.run (eachPage t visit rounds seen (pager n)) (world n) = .error .unfinished := by
  induction rounds generalizing n seen with
  | zero => exact .inr ⟨fun i hle hlt => absurd hlt (by omega), rfl⟩
  | succ rounds ih =>
    have hstep := run_eachPage_succ visit rounds seen (hcalled n)
    by_cases hgoes : ∃ page next, result n = .ok (some page) ∧ visit seen page = (.ok true, next)
    · obtain ⟨page, next, hpage, hvisit⟩ := hgoes
      have hgave (m : Nat) (h : ∀ i, n + 1 ≤ i → i < m → ∃ page, result i = .ok (some page)) (i : Nat)
          (hle : n ≤ i) (hlt : i < m) : ∃ page, result i = .ok (some page) := by
        rcases Nat.eq_or_lt_of_le hle with rfl | hlater
        · exact ⟨page, hpage⟩
        · exact h i hlater hlt
      simp only [hpage, hvisit] at hstep
      rw [hstep]
      rcases ih next (n + 1) with ⟨m, outcome, last, hle, hlt, hbefore, hrun⟩ | ⟨hall, hrun⟩
      · exact .inl ⟨m, outcome, last, by omega, by omega, hgave m hbefore, hrun⟩
      · rw [Nat.add_right_comm] at hall
        exact .inr ⟨hgave _ hall, hrun⟩
    · obtain ⟨outcome, last, hrun⟩ : ∃ outcome last,
          Session.run (eachPage t visit (rounds + 1) seen (pager n)) (world n) =
            .ok (.ok (outcome, last), world (n + 1)) := by
        rw [hstep]
        rcases hresult : result n with e | _ | page
        · exact ⟨_, _, rfl⟩
        · exact ⟨_, _, rfl⟩
        dsimp only
        rcases hvisit : visit seen page with ⟨e | _ | _, next⟩
        · exact ⟨_, _, rfl⟩
        · exact ⟨_, _, rfl⟩
        · exact absurd ⟨page, next, hresult, hvisit⟩ hgoes
      exact .inl ⟨n, outcome, last, le_rfl, by omega, fun i hle hlt => absurd hlt hle.not_gt, hrun⟩

/-- **Pages that are shown to a visitor who always goes on are those of calls**, over any transport:
they are shown up to the end, unless a call or the visitor fails before. -/
theorem calls_of_eachPage (t : Transport σ)
    (hgoes : ∀ seen page, (visit seen page).1 ≠ .ok false) (rounds : Nat) (first : Pager)
    (w : World σ) :
    (∃ why, Session.run (eachPage t visit rounds seen first) w = .error why) ∨
    ∃ n outcome last result pager world, CallsUpTo t first w n result pager world ∧
      (outcome = .ok () → result n = .ok none) ∧
      Session.run (eachPage t visit rounds seen first) w =
        .ok (.ok (outcome, last), world (n + 1)) := by
  induction rounds generalizing seen first w with
  | zero => exact .inl ⟨_, rfl⟩
  | succ rounds ih =>
    rcases exists_run_nextPage_or_halt t first w with ⟨why, hcall⟩ | ⟨r, next, mid, hcall⟩
    · exact .inl ⟨why, Session.run_bind_halt hcall⟩
    have hstep := run_eachPage_succ visit rounds seen hcall
    have hlast := CallsUpTo.last hcall
    rcases r with e | _ | page
    · exact .inr ⟨0, .error e, seen, _, _, _, hlast, nofun, hstep⟩
    · exact .inr ⟨0, .ok (), seen, _, _, _, hlast, fun _ => rfl, hstep⟩
    dsimp only at hstep
    rcases hvisit : visit seen page with ⟨e | _ | _, told⟩
    · rw [hvisit] at hstep
      exact .inr ⟨0, .error e, told, _, _, _, hlast, nofun, hstep⟩
    · exact absurd (congrArg Prod.fst hvisit) (hgoes seen page)
    · rw [hvisit] at hstep
      rw [hstep]
      rcases ih told next mid with hhalts | ⟨n, outcome, last, result, pager, world, hcalls, hok,
        hrun⟩
      · exact .inl hhalts
      · exact .inr ⟨n + 1, outcome, last, _, _, _, .cons hcall hcalls, hok, hrun⟩

end Visit

/-! ### Gathering pages and items -/

/-- Keeps each page. -/
def keep (pages : List Page) (page : Page) : Except Error Bool × List Page :=
  (.ok true, pages ++ [page])

/-- The items of the pages so far, with those of one page more. -/
def gather (decode : Json.Decoder α) (found : List α) (page : Page) :
    Except Error Bool × List α :=
  match page.items decode with
  | .ok items => (.ok true, found ++ items)
  | .error e => (.error e, found)

section Gather
variable {t : Transport σ} {rounds : Nat} {pager : Pager} {w after : World σ}
  {outcome : Except Error Unit}

theorem run_allPages {found : List Page}
    (h : Session.run (eachPage t keep rounds [] pager) w = .ok (.ok (outcome, found), after)) :
    Session.run (allPages t rounds pager) w = .ok (outcome.map fun () => found, after) :=
  (Session.run_bind_ok h).trans rfl

theorem run_allItems {decode : Json.Decoder α} {found : List α}
    (h : Session.run (eachPage t (gather decode) rounds [] pager) w =
      .ok (.ok (outcome, found), after)) :
    Session.run (allItems t decode rounds pager) w = .ok (outcome.map fun () => found, after) :=
  (Session.run_bind_ok h).trans rfl

end Gather

theorem before_keep (pages : List Page) (n : Nat) : before keep [] pages n = pages.take n := by
  have hfold (front : List Page) : ∀ back, front.foldl (fun seen page => (keep seen page).2) back =
      back ++ front := by
    induction front with
    | nil => exact fun back => (List.append_nil back).symm
    | cons page front ih => exact fun back => (ih _).trans (List.append_assoc _ _ _)
  exact hfold _ _

/-- What is gathered from pages whose items all decode. -/
theorem before_gather {decode : Json.Decoder α} {pages : List Page} {found : List (List α)}
    (h : List.Forall₂ (fun page items => page.items decode = .ok items) pages found) :
    before (gather decode) [] pages pages.length = found.flatten := by
  have hfold : ∀ seen, pages.foldl (fun seen page => (gather decode seen page).2) seen =
      seen ++ found.flatten := by
    induction h with
    | nil => exact fun seen => (List.append_nil seen).symm
    | cons hitems _ ih =>
      intro seen
      rw [List.foldl_cons, ih, List.flatten_cons, gather, hitems, List.append_assoc]
  rw [before, List.take_length, hfold, List.nil_append]

theorem reply_gather (decode : Json.Decoder α) (seen : List α) (pages : List Page) (n : Nat)
    (h : n < pages.length) :
    reply (gather decode) seen pages n h = (pages[n].items decode).map fun _ => true := by
  unfold reply gather
  cases pages[n].items decode <;> rfl

/-! ### Streams -/

/-- The entries of a stream of pages, its end being the last one. -/
def entries (pages : List Page) (ending : Except Error Unit) :
    List (Option (Except Error Page)) :=
  pages.map (fun page => some (.ok page)) ++
    match ending with
    | .ok () => [none]
    | .error e => [some (.error e), none]

section Stream
variable {t : Transport σ} {result : Nat → Except Error (Option Page)} {pager : Nat → Pager}
  {world : Nat → World σ} (hcalled : Called t result pager world) {pages : List Page}
  {ending : Except Error Unit} (hyields : Yields result pages ending)

/-- What a call gives, as an entry of a stream. -/
def entry : Except Error (Option Page) → Option (Except Error Page)
  | .ok none => none
  | .ok (some page) => some (.ok page)
  | .error e => some (.error e)

include hcalled in
theorem Called.run_nextOfStream (n : Nat) :
    Session.run (nextOfStream t (pager n)) (world n) =
      .ok (.ok (entry (result n), pager (n + 1)), world (n + 1)) := by
  unfold nextOfStream
  rw [Session.run_bind_ok (hcalled n)]
  rcases result n with e | _ | page <;> rfl

include hcalled in
/-- A stream gives what a call gives, and is over with the end. -/
theorem run_streamed_succ (n limit : Nat) :
    Session.run (streamed t (limit + 1) (pager n)) (world n) =
      match result n with
      | .ok none => .ok (.ok [none], world (n + 1))
      | .ok (some page) =>
        (Session.run (streamed t limit (pager (n + 1))) (world (n + 1))).map
          fun (rest, after) => (rest.map (some (.ok page) :: ·), after)
      | .error e =>
        (Session.run (streamed t limit (pager (n + 1))) (world (n + 1))).map
          fun (rest, after) => (rest.map (some (.error e) :: ·), after) := by
  rw [streamed, Session.run_bind_ok (hcalled.run_nextOfStream n)]
  rcases result n with e | _ | page
  · exact Session.run_bind_pure _ _ _
  · rfl
  · exact Session.run_bind_pure _ _ _

include hcalled in
/-- Where there is nothing to fetch, a stream is over at once and nothing is done. -/
theorem run_streamed_of_no_pending {n : Nat} (hnone : (pager n).pending = none) (limit : Nat) :
    Session.run (streamed t limit (pager n)) (world n) =
      .ok (.ok ([none].take limit), world n) := by
  have hcall := run_nextPage_of_no_pending t hnone (world n)
  rw [hcalled n] at hcall
  obtain ⟨hresult, hworld⟩ := Prod.mk.inj (Except.ok.inj hcall)
  cases limit with
  | zero => rfl
  | succ limit =>
    rw [run_streamed_succ hcalled n limit, (Prod.mk.inj (Except.ok.inj hresult)).1, hworld,
      List.take_succ_cons, List.take_nil]

include hcalled hyields in
/-- **A stream makes one call for each entry, up to the end of the run.** -/
theorem run_streamed (limit n : Nat) (hle : n ≤ pages.length) :
    Session.run (streamed t limit (pager n)) (world n) =
      .ok (.ok ((entries (pages.drop n) ending).take limit),
        world (min (n + limit) (pages.length + 1))) := by
  induction limit generalizing n with
  | zero =>
    rw [List.take_zero, Nat.add_zero, Nat.min_eq_left (by omega)]
    rfl
  | succ limit ih =>
    rw [run_streamed_succ hcalled n limit]
    rcases Nat.lt_or_eq_of_le hle with hlt | rfl
    · rw [hyields.page n hlt, ih (n + 1) hlt, List.drop_eq_getElem_cons hlt,
        show n + 1 + limit = n + (limit + 1) by omega]
      rfl
    · rw [hyields.ends, List.drop_length, Nat.min_eq_right (by omega)]
      cases hend : ending with
      | ok =>
        rw [entries, List.map_nil, List.nil_append, List.take_succ_cons, List.take_nil]
        rfl
      | error e =>
        have hover := hcalled.pending_of_error (by rw [hyields.ends, hend]; rfl)
        have hrest := run_streamed_of_no_pending hcalled hover limit
        dsimp only [Except.map]
        rw [hrest]
        rfl

end Stream

/-! ### All ways to read -/

section Readers
variable {t : Transport σ} {result : Nat → Except Error (Option Page)} {pager : Nat → Pager}
  {world : Nat → World σ} {pages : List Page} {ending : Except Error Unit}

/-- What the calls of a run fetch: each page with one GET, and at its end at most one URL more. -/
structure Fetches (t : Transport σ) (world : Nat → World σ) (pages : List Page) : Prop where
  page : ∀ n (h : n < pages.length),
    Session.run (t.get pages[n].url) (world n) = .ok (.ok pages[n].body, world (n + 1))
  last : world (pages.length + 1) = world pages.length ∨ ∃ url fetched,
    Session.run (t.get url) (world pages.length) = .ok (fetched, world (pages.length + 1))

/-- Over a server, the requests up to a page are those for the pages so far, and all requests of
the run begin with them. -/
theorem Fetches.sent {server : Server σ} (h : Fetches server.transport world pages) {n : Nat}
    (hle : n ≤ pages.length) :
    (world n).sent.map Prod.snd = (world 0).sent.map Prod.snd ++
        (pages.take n).map (fun page => Server.getRequest page.url) ∧
      (world n).sent <+: (world (pages.length + 1)).sent := by
  have hgrows {url : Url} {w after : World σ} {fetched : Except Error Json}
      (hget : Session.run (server.transport.get url) w = .ok (fetched, after)) :
      after.sent = w.sent ++ [(w.now, Server.getRequest url)] := by
    have hfetch : server.fetch url w = (fetched, after) :=
      Except.ok.inj ((server.run_get url w).symm.trans hget)
    have hsent := server.fetch_sent url w
    rwa [hfetch] at hsent
  constructor
  · induction n with
    | zero => exact (List.append_nil _).symm
    | succ n ih =>
      rw [hgrows (h.page n hle), List.map_append, ih (by omega), List.append_assoc,
        List.take_succ_eq_append_getElem hle, List.map_append]
      rfl
  · induction hle using Nat.decreasingInduction with
    | self =>
      rcases h.last with hsame | ⟨url, fetched, hget⟩
      · rw [hsame]
      · exact ⟨_, (hgrows hget).symm⟩
    | of_succ n hlt ih => exact List.IsPrefix.trans ⟨_, (hgrows (h.page n hlt)).symm⟩ ih

theorem Called.fetches (hcalled : Called t result pager world)
    (hyields : Yields result pages ending) : Fetches t world pages where
  page n h := (hcalled.get_of_page (hyields.page n h)).2
  last := hcalled.get_or_nothing pages.length

/-- **All ways to read a list agree.** If the calls of a pager give pages and then end, then all
pages, the stream of them, all their items and any visitor of them come to what these pages and
this end say, each in the world after the last call it needs, and no call is made before. -/
theorem readers_agree (hcalled : Called t result pager world) (hyields : Yields result pages ending)
    {rounds : Nat} (hrounds : pages.length < rounds) :
    Fetches t world pages ∧
    (∀ server : Server σ, t = server.transport → ∀ n ≤ pages.length,
      (world n).sent.map Prod.snd = (world 0).sent.map Prod.snd ++
        (pages.take n).map (fun page => Server.getRequest page.url) ∧
      (world n).sent <+: (world (pages.length + 1)).sent) ∧
    Session.run (allPages t rounds (pager 0)) (world 0) =
      .ok (ending.map fun () => pages, world (pages.length + 1)) ∧
    (∀ limit, Session.run (streamed t limit (pager 0)) (world 0) =
      .ok (.ok ((entries pages ending).take limit), world (min limit (pages.length + 1)))) ∧
    (∀ (α : Type) (decode : Json.Decoder α),
      (∀ found, List.Forall₂ (fun page items => page.items decode = .ok items) pages found →
        Session.run (allItems t decode rounds (pager 0)) (world 0) =
          .ok (ending.map fun () => found.flatten, world (pages.length + 1))) ∧
      ∀ n (h : n < pages.length) e,
        (∀ page ∈ pages.take n, ∃ items, page.items decode = .ok items) →
        pages[n].items decode = .error e →
        Session.run (allItems t decode rounds (pager 0)) (world 0) = .ok (.error e, world (n + 1))) ∧
    ∀ (τ : Type) (visit : τ → Page → Except Error Bool × τ) (seen : τ),
      ((∀ i (hi : i < pages.length), reply visit seen pages i hi = .ok true) →
        Session.run (eachPage t visit rounds seen (pager 0)) (world 0) =
          .ok (.ok (ending, before visit seen pages pages.length), world (pages.length + 1))) ∧
      ∀ n (h : n < pages.length),
        (∀ i (hi : i < n), reply visit seen pages i (hi.trans h) = .ok true) →
        reply visit seen pages n h ≠ .ok true →
        Session.run (eachPage t visit rounds seen (pager 0)) (world 0) =
          .ok (.ok ((reply visit seen pages n h).map fun _ => (),
            before visit seen pages (n + 1)), world (n + 1)) := by
  have hfetches := hcalled.fetches hyields
  refine ⟨hfetches, ?sent, ?pages, fun limit => ?stream, fun α decode => ⟨fun found hfound => ?items,
    fun n h e hbefore herror => ?fails⟩, fun τ visit seen => ⟨fun hall => ?ends,
    fun n h hbefore hstop => ?stops⟩⟩
  case sent =>
    rintro server rfl n hle
    exact hfetches.sent hle
  case pages =>
    have hrun := run_eachPage_ends hcalled hyields keep [] (fun _ _ => rfl) hrounds
    rw [before_keep, List.take_length] at hrun
    exact run_allPages hrun
  case stream =>
    have hrun := run_streamed hcalled hyields limit 0 (Nat.zero_le _)
    rwa [List.drop_zero, Nat.zero_add] at hrun
  case items =>
    have hall (i : Nat) (hi : i < pages.length) : reply (gather decode) [] pages i hi = .ok true := by
      have hitems : pages[i].items decode = .ok (found.get ⟨i, hfound.length_eq ▸ hi⟩) :=
        hfound.get hi _
      rw [reply_gather, hitems]
      rfl
    have hrun := run_eachPage_ends hcalled hyields (gather decode) [] hall hrounds
    rw [before_gather hfound] at hrun
    exact run_allItems hrun
  case fails =>
    have hreply : reply (gather decode) [] pages n h = .error e := by
      rw [reply_gather, herror]
      rfl
    have hgoes (i : Nat) (hi : i < n) :
        reply (gather decode) [] pages i (hi.trans h) = .ok true := by
      obtain ⟨items, hitems⟩ := hbefore pages[i]
        (List.mem_take_iff_getElem.mpr ⟨i, Nat.lt_min.mpr ⟨hi, hi.trans h⟩, rfl⟩)
      rw [reply_gather, hitems]
      rfl
    have hrun := run_eachPage_stops hcalled hyields (gather decode) [] h hgoes
      (by rw [hreply]; exact nofun) (h.trans hrounds)
    rw [hreply] at hrun
    exact run_allItems hrun
  case ends => exact run_eachPage_ends hcalled hyields visit seen hall hrounds
  case stops => exact run_eachPage_stops hcalled hyields visit seen h hbefore hstop (h.trans hrounds)

end Readers

/-! ### Letters on two pages -/

def lettersUrl : Url :=
  serviceUrl ["v1", "letters"]

/-- A page of letters that leads to another one. -/
def lettersPage : Page where
  url := lettersUrl
  body := .object [("links", .array [.object [("href", .string "more"), ("rel", .string "next")]]),
    ("results", .array [.string "a", .string "b"])]

/-- A first page of letters, and a second one that is broken. -/
def letters : Server Unit := fun peer request =>
  (⟨1, .ok (if request.url = lettersUrl then lettersPage.body else .object [("results", .null)])⟩,
    peer)

/-- The first page is in the stream and shown to a visitor, but gathering ends in the error of the
second one. -/
theorem readers_agree_of_letters :
    let w : World Unit := ⟨0, [], [], ()⟩
    let pager := start .linked lettersUrl
    ∃ e after, Session.run (allPages letters.transport 2 pager) w = .ok (.error e, after) ∧
      Session.run (allItems letters.transport Json.Decoder.string 2 pager) w =
        .ok (.error e, after) ∧
      Session.run (streamed letters.transport 3 pager) w =
        .ok (.ok [some (.ok lettersPage), some (.error e), none], after) ∧
      ∃ mid, mid.sent.length = 1 ∧
        Session.run (eachPage letters.transport (fun n _ => (.ok false, n + 1)) 2 0 pager) w =
          .ok (.ok (.ok (), 1), mid) := by
  intro w pager
  let run (n : Nat) : Pager × World Unit := after letters .linked lettersUrl w n
  let result (n : Nat) := (call letters (run n).1 (run n).2).1.1
  have hcalled : Called letters.transport result (fun n => (run n).1) fun n => (run n).2 :=
    runs_after letters .linked lettersUrl w
  have hfirst : result 0 = .ok (some lettersPage) := by decide +kernel
  have hsecond : result 1 = .error (.decode "Field `results` is not an array") := by
    decide +kernel
  have hyields : Yields result [lettersPage] (.error _) :=
    ⟨fun n hn => by obtain rfl : n = 0 := Nat.lt_one_iff.mp hn; exact hfirst, hsecond⟩
  obtain ⟨-, hsent, hall, hstream, hitems, hvisit⟩ :=
    readers_agree hcalled hyields Nat.one_lt_two
  refine ⟨_, _, hall, (hitems String Json.Decoder.string).1 [["a", "b"]] ?_, hstream 3, _, ?_,
    (hvisit Nat (fun n _ => (.ok false, n + 1)) 0).2 0 Nat.one_pos nofun nofun⟩
  · exact .cons (by decide +kernel) .nil
  · have hone := (hsent letters rfl 1 le_rfl).1
    rw [← List.length_map (f := Prod.snd), hone]
    rfl

end Pager

end CloudApi
