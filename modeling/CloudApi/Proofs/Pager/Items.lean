import CloudApi.Proofs.Envelope
import CloudApi.Proofs.Pager.Readers

/-! The items of the pages of a run, all at once and one at a time.

What the items of a run come to is told without a reader: those of page after page, up to the end of
the run or to the first page that does not decode (`Collects`). Gathering the items of all pages
comes to that and to nothing else (`run_allItems_iff`). A reader that takes one item at a time stands
between two calls with what is left of the page of the last one (`Pull`); it takes the same items
and then the same end (`collects_iff_pulls`), and it has made no call ahead of need
(`Pulls.position`). -/
namespace CloudApi

/-- A page that is not empty does not decode as no items. -/
theorem Page.items_ne_nil {α : Type} {decode : Json.Decoder α} {p : Page} {found : List α}
    (hfull : p.isEmpty = .ok false) (h : p.items decode = .ok found) : found ≠ [] := by
  obtain ⟨vs, hresults, hlength⟩ := isEmpty_eq_ok_iff.mp hfull
  obtain ⟨vs', hresults', hdecode⟩ := Envelope.items_eq_ok h
  obtain rfl := Json.array.inj (Option.some.inj (hresults.symm.trans hresults'))
  rintro rfl
  rw [hdecode.length_eq] at hlength
  cases hlength

namespace Pager
variable {σ α : Type}

section Called
variable {t : Transport σ} {result : Nat → Except Error (Option Page)} {pager : Nat → Pager}
  {world : Nat → World σ} (hcalled : Called t result pager world)

include hcalled in
/-- A page that a call gives has items. -/
theorem Called.isEmpty_of_page {n : Nat} {page : Page} (h : result n = .ok (some page)) :
    page.isEmpty = .ok false := by
  have hturned := hcalled.turned n
  rw [h] at hturned
  cases hturned with
  | page _ _ full => exact full

include hcalled in
/-- After a page the URL that it leads to is the one to fetch. -/
theorem Called.next_of_page {n : Nat} {page : Page} (h : result n = .ok (some page)) :
    page.next (pager 0).style = .ok (pager (n + 1)).pending := by
  have hturned := hcalled.turned n
  rw [h] at hturned
  cases hturned with
  | page _ _ _ leads => rwa [hcalled.style_eq n] at leads

include hcalled in
/-- Where there is nothing to fetch, a call gives nothing and does nothing, and so do all calls
after it. -/
theorem Called.of_no_pending {n : Nat} (h : (pager n).pending = none) :
    result n = .ok none ∧ (pager (n + 1)).pending = none ∧ world (n + 1) = world n := by
  have hturned := hcalled.turned n
  generalize result n = r at hturned ⊢
  cases hturned with
  | idle _ rests same => exact ⟨rfl, rests, same⟩
  | page pending => cases h.symm.trans pending
  | ended pending => cases h.symm.trans pending
  | failed pending => cases h.symm.trans pending

end Called

/-! ### All items -/

section Run
variable (decode : Json.Decoder α) (result : Nat → Except Error (Option Page))

/-- What the items of the pages come to from one call of a run on: the items, how they end, and the
number of the call after the last one. -/
inductive Collects : Nat → List α → Except Error Unit → Nat → Prop where
  | drained {n : Nat} (ended : result n = .ok none) : Collects n [] (.ok ()) (n + 1)
  | failed {n : Nat} {e : Error} (error : result n = .error e) : Collects n [] (.error e) (n + 1)
  | unread {n : Nat} {page : Page} {e : Error} (shown : result n = .ok (some page))
    (error : page.items decode = .error e) : Collects n [] (.error e) (n + 1)
  | page {n last : Nat} {page : Page} {items more : List α} {ending : Except Error Unit}
    (shown : result n = .ok (some page)) (read : page.items decode = .ok items)
    (rest : Collects (n + 1) more ending last) : Collects n (items ++ more) ending last

/-- A reader of one item at a time: from what is left of the page of the last call, and the number of
the next one, to an entry. -/
inductive Pull : List α → Nat → Option (Except Error α) → List α → Nat → Prop where
  | waiting {n : Nat} (a : α) (rest : List α) : Pull (a :: rest) n (some (.ok a)) rest n
  | drained {n : Nat} (ended : result n = .ok none) : Pull [] n none [] (n + 1)
  | failed {n : Nat} {e : Error} (error : result n = .error e) :
    Pull [] n (some (.error e)) [] (n + 1)
  | unread {n : Nat} {page : Page} {e : Error} (shown : result n = .ok (some page))
    (error : page.items decode = .error e) : Pull [] n (some (.error e)) [] (n + 1)
  | page {n : Nat} {page : Page} {a : α} {rest : List α} (shown : result n = .ok (some page))
    (read : page.items decode = .ok (a :: rest)) : Pull [] n (some (.ok a)) rest (n + 1)

/-- A number of entries, one after the other. -/
inductive Pulls : List α → Nat → List (Option (Except Error α)) → List α → Nat → Prop where
  | stop (waiting : List α) (n : Nat) : Pulls waiting n [] waiting n
  | next {waiting mid rest : List α} {n m last : Nat} {entry : Option (Except Error α)}
    {entries : List (Option (Except Error α))} (pull : Pull decode result waiting n entry mid m)
    (more : Pulls mid m entries rest last) : Pulls waiting n (entry :: entries) rest last

end Run

section Called
variable {decode : Json.Decoder α} {t : Transport σ} {result : Nat → Except Error (Option Page)}
  {pager : Nat → Pager} {world : Nat → World σ} (hcalled : Called t result pager world)

theorem Collects.lt {n last : Nat} {items : List α} {ending : Except Error Unit}
    (h : Collects decode result n items ending last) : n < last := by
  induction h with
  | drained => exact Nat.lt_succ_self _
  | failed => exact Nat.lt_succ_self _
  | unread => exact Nat.lt_succ_self _
  | page _ _ _ ih => exact (Nat.lt_succ_self _).trans ih

include hcalled in
/-- With rounds for every call, gathering comes to what the items come to. -/
theorem Collects.run_eachPage {n last : Nat} {items : List α} {ending : Except Error Unit}
    (h : Collects decode result n items ending last) {rounds : Nat} (hrounds : last ≤ n + rounds)
    (seen : List α) :
    Session.run (eachPage t (gather decode) rounds seen (pager n)) (world n) =
      .ok (.ok (ending, seen ++ items), world last) := by
  induction h generalizing rounds seen with
  | drained ended =>
    obtain ⟨rounds, rfl⟩ : ∃ r, rounds = r + 1 := ⟨rounds - 1, by omega⟩
    rw [run_eachPage_succ _ _ _ (hcalled _), ended, List.append_nil]
  | failed error =>
    obtain ⟨rounds, rfl⟩ : ∃ r, rounds = r + 1 := ⟨rounds - 1, by omega⟩
    rw [run_eachPage_succ _ _ _ (hcalled _), error, List.append_nil]
  | unread shown error =>
    obtain ⟨rounds, rfl⟩ : ∃ r, rounds = r + 1 := ⟨rounds - 1, by omega⟩
    rw [run_eachPage_succ _ _ _ (hcalled _), shown]
    simp only [gather, error, List.append_nil]
  | page shown read rest ih =>
    obtain ⟨rounds, rfl⟩ : ∃ r, rounds = r + 1 := ⟨rounds - 1, by have := rest.lt; omega⟩
    rw [run_eachPage_succ _ _ _ (hcalled _), shown]
    simp only [gather, read]
    rw [ih (by omega), List.append_assoc]

include hcalled in
/-- Within a number of rounds the items come to something, or there are more pages than rounds. -/
theorem collects_or_halted (decode : Json.Decoder α) (rounds n : Nat) (seen : List α) :
    (∃ items ending last, Collects decode result n items ending last ∧ last ≤ n + rounds) ∨
      Session.run (eachPage t (gather decode) rounds seen (pager n)) (world n) =
        .error .unfinished := by
  induction rounds generalizing n seen with
  | zero => exact .inr rfl
  | succ rounds ih =>
    rw [run_eachPage_succ _ _ _ (hcalled n)]
    rcases hresult : result n with e | _ | page
    · exact .inl ⟨_, _, _, .failed hresult, by omega⟩
    · exact .inl ⟨_, _, _, .drained hresult, by omega⟩
    cases hitems : page.items decode with
    | error e => exact .inl ⟨_, _, _, .unread hresult hitems, by omega⟩
    | ok items =>
      simp only [gather, hitems]
      rcases ih (n + 1) (seen ++ items) with ⟨more, ending, last, hmore, hle⟩ | hhalted
      · exact .inl ⟨_, _, _, .page hresult hitems hmore, by omega⟩
      · exact .inr hhalted

include hcalled in
/-- **All items come to what the items of the pages come to**, and to nothing else. -/
theorem run_allItems_iff (decode : Json.Decoder α) {outcome : Except Error (List α)}
    {after : World σ} :
    (∃ rounds, Session.run (allItems t decode rounds (pager 0)) (world 0) = .ok (outcome, after)) ↔
      ∃ items ending last, Collects decode result 0 items ending last ∧
        outcome = ending.map (fun () => items) ∧ after = world last := by
  have hcomes {items ending last rounds} (h : Collects decode result 0 items ending last)
      (hle : last ≤ 0 + rounds) :
      Session.run (allItems t decode rounds (pager 0)) (world 0) =
        .ok (ending.map fun () => items, world last) :=
    run_allItems (h.run_eachPage hcalled hle [])
  constructor
  · rintro ⟨rounds, hrun⟩
    rcases collects_or_halted hcalled decode rounds 0 [] with ⟨items, ending, last, h, hle⟩ | hhalted
    · rw [hcomes h hle] at hrun
      obtain ⟨rfl, rfl⟩ := Prod.mk.inj (Except.ok.inj hrun)
      exact ⟨items, ending, last, h, rfl, rfl⟩
    · have hnothing : Session.run (allItems t decode rounds (pager 0)) (world 0) =
          .error .unfinished := Session.run_bind_halt hhalted
      rw [hnothing] at hrun
      cases hrun
  · rintro ⟨items, ending, last, h, rfl, rfl⟩
    exact ⟨last, hcomes h (by omega)⟩

/-! ### One item at a time -/

include hcalled in
/-- Wherever the reader stands, there is a next entry. -/
theorem exists_pull (decode : Json.Decoder α) (waiting : List α) (n : Nat) :
    ∃ entry rest m, Pull decode result waiting n entry rest m := by
  rcases waiting with _ | ⟨a, rest⟩
  · rcases hresult : result n with e | _ | page
    · exact ⟨_, _, _, .failed hresult⟩
    · exact ⟨_, _, _, .drained hresult⟩
    cases hitems : page.items decode with
    | error e => exact ⟨_, _, _, .unread hresult hitems⟩
    | ok items =>
      rcases items with _ | ⟨a, rest⟩
      · exact absurd rfl (Page.items_ne_nil (hcalled.isEmpty_of_page hresult) hitems)
      · exact ⟨_, _, _, .page hresult hitems⟩
  · exact ⟨_, _, _, .waiting a rest⟩

end Called

section Pulls
variable {decode : Json.Decoder α} {result : Nat → Except Error (Option Page)}

/-- The entry that tells how the items end. -/
def lastEntry : Except Error Unit → Option (Except Error α)
  | .ok () => none
  | .error e => some (.error e)

theorem Pulls.append {waiting mid rest : List α} {n m last : Nat}
    {entries more : List (Option (Except Error α))} (h : Pulls decode result waiting n entries mid m)
    (h' : Pulls decode result mid m more rest last) :
    Pulls decode result waiting n (entries ++ more) rest last := by
  induction h with
  | stop => exact h'
  | next pull _ ih => exact .next pull (ih h')

/-- The last one of some entries was taken behind the others. -/
theorem Pulls.of_append_singleton {waiting rest : List α} {n last : Nat}
    {entries : List (Option (Except Error α))} {entry : Option (Except Error α)}
    (h : Pulls decode result waiting n (entries ++ [entry]) rest last) :
    ∃ mid m, Pull decode result mid m entry rest last := by
  induction entries generalizing waiting n with
  | nil =>
    obtain _ | ⟨pull, more⟩ := h
    cases more
    exact ⟨_, _, pull⟩
  | cons first entries ih =>
    obtain _ | ⟨-, more⟩ := h
    exact ih more

/-- Wherever the reader stands, any number of entries comes. -/
theorem exists_pulls {t : Transport σ} {pager : Nat → Pager} {world : Nat → World σ}
    (hcalled : Called t result pager world) (decode : Json.Decoder α) (limit : Nat)
    (waiting : List α) (n : Nat) :
    ∃ entries rest last, entries.length = limit ∧
      Pulls decode result waiting n entries rest last := by
  induction limit generalizing waiting n with
  | zero => exact ⟨[], waiting, n, rfl, .stop waiting n⟩
  | succ limit ih =>
    obtain ⟨entry, mid, m, hpull⟩ := exists_pull hcalled decode waiting n
    obtain ⟨entries, rest, last, hlength, hpulls⟩ := ih mid m
    exact ⟨entry :: entries, rest, last, congrArg (· + 1) hlength, .next hpull hpulls⟩

/-- Where there is nothing to fetch and nothing left of a page, only the end comes. -/
theorem Pulls.of_no_pending {t : Transport σ} {pager : Nat → Pager} {world : Nat → World σ}
    (hcalled : Called t result pager world) {n last : Nat} {rest : List α}
    {entries : List (Option (Except Error α))} (hnone : (pager n).pending = none)
    (h : Pulls decode result [] n entries rest last) :
    entries = List.replicate entries.length none ∧ world last = world n := by
  induction entries generalizing n with
  | nil =>
    cases h
    exact ⟨rfl, rfl⟩
  | cons entry entries ih =>
    obtain _ | ⟨pull, more⟩ := h
    obtain ⟨hresult, hpending, hworld⟩ := hcalled.of_no_pending hnone
    cases pull with
    | drained =>
      obtain ⟨hentries, hlast⟩ := ih hpending more
      exact ⟨congrArg (none :: ·) hentries, hlast.trans hworld⟩
    | failed error => cases hresult.symm.trans error
    | unread shown => cases hresult.symm.trans shown
    | page shown => cases hresult.symm.trans shown

/-- What is left of a page is taken without a call. -/
theorem pulls_waiting (waiting : List α) (n : Nat) :
    Pulls decode result waiting n (waiting.map fun a => some (.ok a)) [] n := by
  induction waiting with
  | nil => exact .stop [] n
  | cons a rest ih => exact .next (.waiting a rest) ih

/-- **The items are taken one at a time**, and then their end. -/
theorem Collects.pulls {t : Transport σ} {pager : Nat → Pager} {world : Nat → World σ}
    (hcalled : Called t result pager world) {n last : Nat} {items : List α}
    {ending : Except Error Unit} (h : Collects decode result n items ending last) :
    Pulls decode result [] n (items.map (fun a => some (.ok a)) ++ [lastEntry ending]) [] last := by
  induction h with
  | drained ended => exact .next (.drained ended) (.stop [] _)
  | failed error => exact .next (.failed error) (.stop [] _)
  | unread shown error => exact .next (.unread shown error) (.stop [] _)
  | @page n _ page items more _ shown read rest ih =>
    rcases items with _ | ⟨a, items⟩
    · exact absurd rfl (Page.items_ne_nil (hcalled.isEmpty_of_page shown) read)
    · rw [List.map_append, List.append_assoc]
      exact .next (.page shown read) ((pulls_waiting items (n + 1)).append ih)

/-- Items and an end that were taken are what the items come to. -/
theorem collects_of_pulls {waiting rest xs : List α} {n last : Nat} {ending : Except Error Unit}
    (h : Pulls decode result waiting n (xs.map (fun a => some (.ok a)) ++ [lastEntry ending]) rest
      last) :
    ∃ items, xs = waiting ++ items ∧ Collects decode result n items ending last := by
  induction xs generalizing waiting n with
  | nil =>
    obtain _ | ⟨pull, more⟩ := h
    cases more
    rcases ending with e | _
    · cases pull with
      | failed error => exact ⟨[], rfl, .failed error⟩
      | unread shown error => exact ⟨[], rfl, .unread shown error⟩
    · cases pull with
      | drained ended => exact ⟨[], rfl, .drained ended⟩
  | cons x xs ih =>
    obtain _ | ⟨pull, more⟩ := h
    obtain ⟨items, hxs, hitems⟩ := ih more
    cases pull with
    | waiting => exact ⟨items, congrArg (x :: ·) hxs, hitems⟩
    | page shown read => exact ⟨_, congrArg (x :: ·) hxs, .page shown read hitems⟩

/-- **Both readers agree**: items and an end are taken one at a time just if they are what the items
of all pages come to, and after the same calls. -/
theorem collects_iff_pulls {t : Transport σ} {pager : Nat → Pager} {world : Nat → World σ}
    (hcalled : Called t result pager world) {items : List α} {ending : Except Error Unit}
    {n last : Nat} :
    Collects decode result n items ending last ↔ ∃ rest,
      Pulls decode result [] n (items.map (fun a => some (.ok a)) ++ [lastEntry ending]) rest
        last := by
  constructor
  · exact fun h => ⟨[], h.pulls hcalled⟩
  · rintro ⟨rest, h⟩
    obtain ⟨_, rfl, hitems⟩ := collects_of_pulls h
    exact hitems

/-- Where a reader stands that has taken a number of items: behind pages that hold them, of which all
but the last one hold fewer. -/
theorem Pulls.position {waiting rest xs : List α} {n last : Nat}
    (h : Pulls decode result waiting n (xs.map fun a => some (.ok a)) rest last) :
    ∃ (pages : List Page) (found : List (List α)), last = n + pages.length ∧
      (∀ i (hi : i < pages.length), result (n + i) = .ok (some pages[i])) ∧
      List.Forall₂ (fun page items => page.items decode = .ok items) pages found ∧
      waiting ++ found.flatten = xs ++ rest ∧
      (pages = [] ∨ (waiting ++ found.dropLast.flatten).length < xs.length) := by
  induction xs generalizing waiting n with
  | nil =>
    cases h
    exact ⟨[], [], rfl, fun i hi => absurd hi (Nat.not_lt_zero i), .nil, List.append_nil _, .inl rfl⟩
  | cons x xs ih =>
    obtain _ | ⟨pull, more⟩ := h
    obtain ⟨pages, found, hlast, hresult, hfound, hflat, hfew⟩ := ih more
    cases pull with
    | waiting =>
      refine ⟨pages, found, hlast, hresult, hfound, congrArg (x :: ·) hflat, hfew.imp_right ?_⟩
      exact Nat.succ_lt_succ
    | @page _ page _ _ shown read =>
      refine ⟨page :: pages, _ :: found, by rw [hlast, List.length_cons]; omega, ?_,
        .cons read hfound, congrArg (x :: ·) hflat, .inr ?_⟩
      · intro i hi
        cases i with
        | zero => exact shown
        | succ i =>
          rw [List.getElem_cons_succ, show n + (i + 1) = n + 1 + i by omega]
          exact hresult i _
      · rcases hfew with rfl | hfew
        · cases hfound
          exact Nat.succ_pos _
        · cases hfound with
          | nil => exact Nat.succ_pos _
          | cons => exact Nat.succ_lt_succ hfew

end Pulls

end Pager

end CloudApi
