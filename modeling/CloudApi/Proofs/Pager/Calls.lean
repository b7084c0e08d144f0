import CloudApi.Pager
import CloudApi.Proofs.Session
import Mathlib.Data.Finset.Card

/-! The calls of a pager.

Over a server every call for the next page comes to something (`run_nextPage`): to `call`, one
step of the pager and its world. What a fetched body comes to is told by `Pager.read`, which is
described here without its code: a page and its continuation (`read_eq_page_iff`), an empty page
(`read_eq_nothing_iff`) or one of three errors (`read_eq_error_iff`). Along a run the URLs
fetched are those in `visited`, and the pending one is new (`sound_after`), so that the pages form
a chain (`nextPage_chain`). -/
namespace CloudApi

namespace Pager
variable {σ : Type}

/-! ### What a body comes to -/

/-- The error of a page that leads back. -/
def leadsBack (p : Page) (u : Url) : Error :=
  .decode ("Page `" ++ p.url.text ++ "` points back to already fetched page `" ++ u.text ++ "`")

/-- What a page comes to when its parts are known. -/
theorem read_eq (style : PageStyle) (visited : List Url) (p : Page) :
    read style visited p =
      match p.isEmpty, p.next style with
      | .error e, _ => .error e
      | .ok true, _ => .ok none
      | .ok false, .error e => .error e
      | .ok false, .ok none => .ok (some (p, none))
      | .ok false, .ok (some u) =>
        if u ∈ visited then .error (leadsBack p u) else .ok (some (p, some u)) := by
  unfold read leadsBack
  rcases p.isEmpty with e | _ | _ <;> rcases p.next style with e' | _ | u <;>
    simp [bind, Except.bind]

theorem read_eq_page_iff {style : PageStyle} {visited : List Url} {p q : Page}
    {next : Option Url} :
    read style visited p = .ok (some (q, next)) ↔
      q = p ∧ p.isEmpty = .ok false ∧ p.next style = .ok next ∧
        ∀ u, next = some u → u ∉ visited := by
  rw [read_eq]
  grind

theorem read_eq_nothing_iff {style : PageStyle} {visited : List Url} {p : Page} :
    read style visited p = .ok none ↔ p.isEmpty = .ok true := by
  rw [read_eq]
  grind

theorem read_eq_error_iff {style : PageStyle} {visited : List Url} {p : Page} {e : Error} :
    read style visited p = .error e ↔
      p.isEmpty = .error e ∨ p.isEmpty = .ok false ∧
        (p.next style = .error e ∨
          ∃ u ∈ visited, p.next style = .ok (some u) ∧ e = leadsBack p u) := by
  rw [read_eq]
  grind

section Found
variable {found : Except Error (Option (Page × Option Url))}

theorem map_fst_eq_page_iff {page : Page} :
    found.map (Option.map Prod.fst) = .ok (some page) ↔
      ∃ next, found = .ok (some (page, next)) := by
  rcases found with e | _ | ⟨q, next⟩ <;> simp [Except.map]

theorem map_fst_eq_nothing_iff :
    found.map (Option.map Prod.fst) = .ok none ↔ found = .ok none := by
  rcases found with e | _ | ⟨q, next⟩ <;> simp [Except.map]

theorem map_fst_eq_error_iff {e : Error} :
    found.map (Option.map Prod.fst) = .error e ↔ found = .error e := by
  rcases found with e | _ | ⟨q, next⟩ <;> simp [Except.map]

end Found

/-! ### One call -/

/-- The URL that the next call fetches, if it fetches any. -/
def pending (pager : Pager) : Option Url :=
  if pager.state.isTerminal then none else pager.nextUrl

/-- The pager after a body that was fetched from a URL. -/
def turn (pager : Pager) (url : Url) (body : Except Error Json) :
    Except Error (Option Page) × Pager :=
  match body.bind fun body => read pager.style (url :: pager.visited) ⟨url, body⟩ with
  | .ok (some (page, next)) =>
    (.ok (some page), ⟨pager.style, next, .yieldedPage, url :: pager.visited⟩)
  | .ok none => (.ok none, ⟨pager.style, none, .exhausted, url :: pager.visited⟩)
  | .error e => (.error e, ⟨pager.style, none, .errored, url :: pager.visited⟩)

/-- The pager after a call that fetches nothing. -/
def rest (pager : Pager) : Pager :=
  if pager.state.isTerminal then pager else { pager with state := .exhausted }

/-- What a call comes to: its result, the pager after it and the world after it. -/
def call (server : Server σ) (pager : Pager) (w : World σ) :
    (Except Error (Option Page) × Pager) × World σ :=
  match pager.pending with
  | none => ((.ok none, pager.rest), w)
  | some url => (pager.turn url (server.fetch url w).1, (server.fetch url w).2)

section Transports
variable (t : Transport σ) {pager : Pager} {url : Url} {w after : World σ}

/-- A call with nothing to fetch, over any transport. -/
theorem run_nextPage_of_no_pending (hnone : pager.pending = none) (w : World σ) :
    Session.run (nextPage t pager) w = .ok (.ok (.ok none, pager.rest), w) := by
  unfold pending at hnone
  unfold nextPage rest
  by_cases hterminal : pager.state.isTerminal
  · simp only [hterminal, if_true]
    rfl
  · simp only [hterminal, if_false, Bool.false_eq_true] at hnone ⊢
    rw [hnone]
    rfl

theorem nextPage_of_pending (hurl : pager.pending = some url) :
    nextPage t pager = Session.attempt (t.get url) >>= fun body =>
      (pure (pager.turn url body) : Session σ _) := by
  unfold pending at hurl
  have hopen : ¬ pager.state.isTerminal := fun h => by rw [if_pos h] at hurl; cases hurl
  unfold nextPage
  rw [if_neg hopen] at hurl ⊢
  rw [hurl]
  refine bind_congr fun body => ?_
  unfold turn
  rcases body.bind fun body => read pager.style (url :: pager.visited) ⟨url, body⟩ with
    e | _ | ⟨page, next⟩ <;> rfl

/-- A call fetches the URL that is next, over any transport. -/
theorem run_nextPage_of_pending {fetched : Except Error Json} (hurl : pager.pending = some url)
    (hget : Session.run (t.get url) w = .ok (fetched, after)) :
    Session.run (nextPage t pager) w = .ok (.ok (pager.turn url fetched), after) := by
  have hattempt : Session.run (Session.attempt (t.get url)) w = .ok (.ok fetched, after) := by
    rw [Session.run_attempt, hget]
    rfl
  rw [nextPage_of_pending t hurl, Session.run_bind_ok hattempt]
  rfl

/-- A call that comes to something fetched nothing, or the URL that was next. -/
theorem run_nextPage_cases {t : Transport σ} {result : Except Error (Option Page)} {next : Pager}
    (h : Session.run (nextPage t pager) w = .ok (.ok (result, next), after)) :
    (pager.pending = none ∧ result = .ok none ∧ next = pager.rest ∧ after = w) ∨
      ∃ url fetched, pager.pending = some url ∧
        Session.run (t.get url) w = .ok (fetched, after) ∧ pager.turn url fetched = (result, next) := by
  cases hurl : pager.pending with
  | none =>
    rw [run_nextPage_of_no_pending t hurl w] at h
    cases h
    exact .inl ⟨rfl, rfl, rfl, rfl⟩
  | some url =>
    cases hget : Session.run (t.get url) w with
    | error why =>
      have hattempt : Session.run (Session.attempt (t.get url)) w = .error why := by
        rw [Session.run_attempt, hget]
        rfl
      rw [nextPage_of_pending t hurl, Session.run_bind_halt hattempt] at h
      cases h
    | ok got =>
      obtain ⟨fetched, mid⟩ := got
      rw [run_nextPage_of_pending t hurl hget] at h
      obtain ⟨hturn, rfl⟩ := Prod.mk.inj (Except.ok.inj h)
      exact .inr ⟨url, fetched, rfl, hget, Except.ok.inj hturn⟩

end Transports

theorem run_nextPage (server : Server σ) (pager : Pager) (w : World σ) :
    Session.run (nextPage server.transport pager) w =
      .ok (.ok (call server pager w).1, (call server pager w).2) := by
  unfold call
  cases hurl : pager.pending with
  | none => exact run_nextPage_of_no_pending _ hurl w
  | some url => exact run_nextPage_of_pending _ hurl (Server.run_get server url w)

/-- A pager shows the page that a call comes to and goes on if the visitor says so. -/
theorem run_eachPage_succ {τ : Type} {t : Transport σ} {pager next : Pager} {w after : World σ}
    {result : Except Error (Option Page)} (visit : τ → Page → Except Error Bool × τ) (rounds : Nat)
    (seen : τ) :
    Session.run (nextPage t pager) w = .ok (.ok (result, next), after) →
    Session.run (eachPage t visit (rounds + 1) seen pager) w =
      match result with
      | .error e => .ok (.ok (.error e, seen), after)
      | .ok none => .ok (.ok (.ok (), seen), after)
      | .ok (some page) =>
        match visit seen page with
        | (.error e, seen) => .ok (.ok (.error e, seen), after)
        | (.ok false, seen) => .ok (.ok (.ok (), seen), after)
        | (.ok true, seen) => Session.run (eachPage t visit rounds seen next) after := by
  intro hcall
  rw [eachPage, Session.run_bind_ok hcall]
  rcases result with e | _ | page
  · rfl
  · rfl
  · dsimp only
    rcases visit seen page with ⟨e | _ | _, seen⟩ <;> rfl

/-- A fetched body comes to a page, to the end or to an error, and leaves the pager in the state
of the same kind. -/
theorem turn_cases (pager : Pager) (url : Url) (fetched : Except Error Json) :
    (∃ body next, fetched = .ok body ∧
      read pager.style (url :: pager.visited) ⟨url, body⟩ = .ok (some (⟨url, body⟩, next)) ∧
      pager.turn url fetched =
        (.ok (some ⟨url, body⟩), ⟨pager.style, next, .yieldedPage, url :: pager.visited⟩)) ∨
    (∃ body, fetched = .ok body ∧
      read pager.style (url :: pager.visited) ⟨url, body⟩ = .ok none ∧
      pager.turn url fetched = (.ok none, ⟨pager.style, none, .exhausted, url :: pager.visited⟩)) ∨
    ∃ e, (fetched.bind fun body =>
        read pager.style (url :: pager.visited) ⟨url, body⟩) = .error e ∧
      pager.turn url fetched = (.error e, ⟨pager.style, none, .errored, url :: pager.visited⟩) := by
  unfold turn
  cases fetched with
  | error e => exact .inr (.inr ⟨e, rfl, rfl⟩)
  | ok body =>
    cases hread : read pager.style (url :: pager.visited) ⟨url, body⟩ with
    | error e => exact .inr (.inr ⟨e, hread, by simp only [Except.bind, hread]⟩)
    | ok found =>
      cases found with
      | none => exact .inr (.inl ⟨body, rfl, hread, by simp only [Except.bind, hread]⟩)
      | some entry =>
        obtain ⟨page, next⟩ := entry
        obtain ⟨rfl, -⟩ := read_eq_page_iff.mp hread
        exact .inl ⟨body, next, rfl, hread, by simp only [Except.bind, hread]⟩

/-- What a fetched body comes to for who called. -/
theorem turn_fst (pager : Pager) (url : Url) (fetched : Except Error Json) :
    (pager.turn url fetched).1 = (fetched.bind fun body =>
      read pager.style (url :: pager.visited) ⟨url, body⟩).map (Option.map Prod.fst) := by
  rcases pager.turn_cases url fetched with ⟨body, next, hbody, hread, hturn⟩ |
    ⟨body, hbody, hread, hturn⟩ | ⟨e, hread, hturn⟩
  · rw [hturn, hbody, Except.bind, hread]
    rfl
  · rw [hturn, hbody, Except.bind, hread]
    rfl
  · rw [hturn, hread]
    rfl

/-! ### What every call keeps -/

/-- A pager that has fetched a list of URLs, in order: it remembers them all, none came twice,
and what is next is none of them. -/
structure Sound (style : PageStyle) (fetched : List Url) (pager : Pager) : Prop where
  style_eq : pager.style = style
  visited_eq : pager.visited = fetched.reverse
  nodup : fetched.Nodup
  fresh : ∀ u, pager.nextUrl = some u → u ∉ fetched
  closed : pager.state.isTerminal → pager.nextUrl = none

theorem sound_start (style : PageStyle) (first : Url) : Sound style [] (start style first) :=
  ⟨rfl, rfl, List.nodup_nil, fun _ _ => List.not_mem_nil, fun h => absurd h Bool.false_ne_true⟩

theorem Sound.pending_eq {style : PageStyle} {fetched : List Url} {pager : Pager}
    (h : Sound style fetched pager) : pager.pending = pager.nextUrl := by
  unfold pending
  split
  · next hterminal => exact (h.closed hterminal).symm
  · rfl

theorem Sound.rest {style : PageStyle} {fetched : List Url} {pager : Pager}
    (h : Sound style fetched pager) (hnone : pager.pending = none) :
    Sound style fetched pager.rest := by
  have hnext : pager.nextUrl = none := by rw [← h.pending_eq, hnone]
  unfold Pager.rest
  split
  · exact h
  · exact ⟨h.style_eq, h.visited_eq, h.nodup, h.fresh, fun _ => hnext⟩

theorem Sound.turn {style : PageStyle} {fetched : List Url} {pager : Pager} {url : Url}
    (h : Sound style fetched pager) (hurl : pager.pending = some url)
    (body : Except Error Json) : Sound style (fetched ++ [url]) (pager.turn url body).2 := by
  have hvisited : url :: pager.visited = (fetched ++ [url]).reverse := by
    rw [h.visited_eq, List.reverse_append]
    rfl
  have hnodup : (fetched ++ [url]).Nodup := by
    have hnew := h.fresh url (by rw [← h.pending_eq, hurl])
    rw [List.nodup_append]
    exact ⟨h.nodup, List.nodup_singleton url, fun a ha b hb => by
      rw [List.mem_singleton.mp hb]
      exact fun hab => hnew (hab ▸ ha)⟩
  rcases pager.turn_cases url body with ⟨body, next, -, hread, hturn⟩ | ⟨_, -, -, hturn⟩ |
    ⟨_, -, hturn⟩
  · rw [hturn]
    refine ⟨h.style_eq, hvisited, hnodup, fun u hu => ?_, fun h => absurd h Bool.false_ne_true⟩
    rw [← List.mem_reverse, ← hvisited]
    exact (read_eq_page_iff.mp hread).2.2.2 u hu
  · rw [hturn]
    exact ⟨h.style_eq, hvisited, hnodup, fun u hu => absurd hu (Option.some_ne_none u).symm,
      fun _ => rfl⟩
  · rw [hturn]
    exact ⟨h.style_eq, hvisited, hnodup, fun u hu => absurd hu (Option.some_ne_none u).symm,
      fun _ => rfl⟩

theorem Sound.call {style : PageStyle} {fetched : List Url} {pager : Pager}
    (h : Sound style fetched pager) (server : Server σ) (w : World σ) :
    Sound style (fetched ++ pager.pending.toList) (call server pager w).1.2 := by
  unfold Pager.call
  cases hpending : pager.pending with
  | none => simpa using h.rest hpending
  | some url => exact h.turn hpending _

/-! ### What one call comes to -/

section Call
variable {style : PageStyle} {fetched : List Url} {pager : Pager} {url : Url}
  (h : Sound style fetched pager) (hurl : pager.pending = some url) (server : Server σ)
  (w : World σ)

include hurl in
theorem call_of_pending :
    call server pager w = (pager.turn url (server.fetch url w).1, (server.fetch url w).2) := by
  unfold call
  rw [hurl]

theorem call_of_no_pending (hnone : pager.pending = none) :
    call server pager w = ((.ok none, pager.rest), w) := by
  unfold call
  rw [hnone]

theorem call_of_terminal (hterminal : pager.state.isTerminal) :
    call server pager w = ((.ok none, pager), w) := by
  rw [call_of_no_pending server w (if_pos hterminal), Pager.rest, if_pos hterminal]

include h in
theorem call_of_no_url (hnone : pager.nextUrl = none) (hopen : pager.state.isTerminal = false) :
    call server pager w = ((.ok none, { pager with state := .exhausted }), w) := by
  rw [call_of_no_pending server w (h.pending_eq.trans hnone), Pager.rest,
    if_neg (Bool.eq_false_iff.mp hopen)]

include h in
/-- What counts as fetched for the page at hand. -/
theorem Sound.mem_visited {u : Url} : u ∈ url :: pager.visited ↔ u ∈ fetched ++ [url] := by
  rw [h.visited_eq, List.mem_cons, List.mem_reverse, List.mem_append, List.mem_singleton, or_comm]

include hurl in
/-- The result of a call is what the fetched body comes to. -/
theorem call_result :
    (call server pager w).1.1 = ((server.fetch url w).1.bind fun body =>
      read pager.style (url :: pager.visited) ⟨url, body⟩).map (Option.map Prod.fst) := by
  rw [call_of_pending hurl, turn_fst]

include h hurl in
/-- A call gives a page just if the URL was fetched, the page has items, and it leads nowhere or
to a URL that was not fetched yet. -/
theorem call_eq_page_iff {page : Page} :
    (call server pager w).1.1 = .ok (some page) ↔
      ∃ body next, (server.fetch url w).1 = .ok body ∧ page = ⟨url, body⟩ ∧
        page.isEmpty = .ok false ∧ page.next style = .ok next ∧
        ∀ u, next = some u → u ∉ fetched ++ [url] := by
  simp only [call_result hurl, ← h.style_eq, ← h.mem_visited]
  cases (server.fetch url w).1 with
  | error e => simp [Except.bind, Except.map]
  | ok body =>
    rw [Except.bind, map_fst_eq_page_iff]
    simp only [read_eq_page_iff]
    constructor
    · rintro ⟨next, rfl, hfound⟩
      exact ⟨body, next, rfl, rfl, hfound⟩
    · rintro ⟨_, next, ⟨rfl⟩, rfl, hfound⟩
      exact ⟨next, rfl, hfound⟩

include hurl in
/-- A call gives nothing just if the URL was fetched and the page has no items. -/
theorem call_eq_nothing_iff :
    (call server pager w).1.1 = .ok none ↔
      ∃ body, (server.fetch url w).1 = .ok body ∧ (⟨url, body⟩ : Page).isEmpty = .ok true := by
  rw [call_result hurl]
  cases (server.fetch url w).1 with
  | error e => simp [Except.bind, Except.map]
  | ok body =>
    rw [Except.bind, map_fst_eq_nothing_iff, read_eq_nothing_iff]
    constructor
    · exact fun hempty => ⟨body, rfl, hempty⟩
    · rintro ⟨_, ⟨rfl⟩, hempty⟩
      exact hempty

include h hurl in
/-- A call gives the error of the transport, of the items, of the continuation, or that the page
leads back. -/
theorem call_eq_error_iff {e : Error} :
    (call server pager w).1.1 = .error e ↔
      (server.fetch url w).1 = .error e ∨
      ∃ body, (server.fetch url w).1 = .ok body ∧
        ((⟨url, body⟩ : Page).isEmpty = .error e ∨ (⟨url, body⟩ : Page).isEmpty = .ok false ∧
          ((⟨url, body⟩ : Page).next style = .error e ∨
            ∃ u ∈ fetched ++ [url], (⟨url, body⟩ : Page).next style = .ok (some u) ∧
              e = leadsBack ⟨url, body⟩ u)) := by
  simp only [call_result hurl, ← h.style_eq, ← h.mem_visited]
  cases (server.fetch url w).1 with
  | error e' => simp [Except.bind, Except.map]
  | ok body =>
    rw [Except.bind, map_fst_eq_error_iff, read_eq_error_iff]
    constructor
    · exact fun herror => .inr ⟨body, rfl, herror⟩
    · rintro (⟨⟨⟩⟩ | ⟨_, ⟨rfl⟩, herror⟩)
      exact herror

include hurl in
/-- The state after a call that fetched tells its result. -/
theorem state_call :
    (call server pager w).1.2.state =
      match (call server pager w).1.1 with
      | .ok (some _) => .yieldedPage
      | .ok none => .exhausted
      | .error _ => .errored := by
  rw [call_of_pending hurl]
  rcases pager.turn_cases url (server.fetch url w).1 with ⟨_, _, -, -, hturn⟩ | ⟨_, -, -, hturn⟩ |
    ⟨_, -, hturn⟩ <;> rw [hturn]

include h in
/-- After a page the URL it leads to is pending, after anything else none. -/
theorem pending_call :
    match (call server pager w).1.1 with
    | .ok (some page) => page.next style = .ok (call server pager w).1.2.pending
    | _ => (call server pager w).1.2.pending = none := by
  cases hurl : pager.pending with
  | none =>
    rw [call_of_no_pending _ _ hurl]
    exact (h.rest hurl).pending_eq.trans (by
      unfold Pager.rest
      split <;> exact h.pending_eq.symm.trans hurl)
  | some url =>
    rw [call_of_pending hurl]
    rcases pager.turn_cases url (server.fetch url w).1 with ⟨body, next, -, hread, hturn⟩ |
      ⟨_, -, -, hturn⟩ | ⟨_, -, hturn⟩
    · rw [hturn, ← h.style_eq]
      exact (read_eq_page_iff.mp hread).2.2.1
    · rw [hturn]
      rfl
    · rw [hturn]
      rfl

end Call

/-! ### A run of calls -/

/-- A pager that is called over and over: the results, the pagers between the calls and the
worlds between them. -/
structure Calls (server : Server σ) (style : PageStyle) (first : Url)
    (result : Nat → Except Error (Option Page)) (pager : Nat → Pager)
    (world : Nat → World σ) : Prop where
  starts : pager 0 = start style first
  runs : ∀ n, Session.run (nextPage server.transport (pager n)) (world n) =
    .ok (.ok (result n, pager (n + 1)), world (n + 1))

/-- The URLs fetched by the first calls of a run, in order. -/
def fetched (pager : Nat → Pager) (n : Nat) : List Url :=
  (List.range n).filterMap fun i => (pager i).nextUrl

theorem fetched_succ (pager : Nat → Pager) (n : Nat) :
    fetched pager (n + 1) = fetched pager n ++ (pager n).nextUrl.toList := by
  simp only [fetched, List.range_succ, List.filterMap_append, List.filterMap_cons,
    List.filterMap_nil]
  cases (pager n).nextUrl <;> rfl

/-- What holds of a run of calls that begins at a URL: each page leads to the URL that the next
call fetches, and the chain ends where the pages say so. -/
structure Chain (server : Server σ) (style : PageStyle) (first : Url)
    (result : Nat → Except Error (Option Page)) (pager : Nat → Pager)
    (world : Nat → World σ) : Prop where
  begins : (pager 0).nextUrl = some first
  /-- A page leads to the URL fetched next, any other result leads nowhere. -/
  leads : ∀ n, match result n with
    | .ok (some page) => page.next style = .ok (pager (n + 1)).nextUrl
    | _ => (pager (n + 1)).nextUrl = none
  /-- A call with a URL to fetch makes one GET of it and nothing else. -/
  fetches : ∀ n url, (pager n).nextUrl = some url →
    world (n + 1) = (server.fetch url (world n)).2
  sent : ∀ n, (world n).sent.map Prod.snd =
    (world 0).sent.map Prod.snd ++ (fetched pager n).map Server.getRequest
  page_iff : ∀ n url, (pager n).nextUrl = some url → ∀ page, result n = .ok (some page) ↔
    ∃ body next, (server.fetch url (world n)).1 = .ok body ∧ page = ⟨url, body⟩ ∧
      page.isEmpty = .ok false ∧ page.next style = .ok next ∧
      ∀ u, next = some u → u ∉ fetched pager (n + 1)
  nothing_iff : ∀ n url, (pager n).nextUrl = some url → (result n = .ok none ↔
    ∃ body, (server.fetch url (world n)).1 = .ok body ∧ (⟨url, body⟩ : Page).isEmpty = .ok true)
  /-- The errors are those of the transport, of the items, of the continuation, and that the
  page leads back. -/
  error_iff : ∀ n url, (pager n).nextUrl = some url → ∀ e, result n = .error e ↔
    (server.fetch url (world n)).1 = .error e ∨
    ∃ body, (server.fetch url (world n)).1 = .ok body ∧
      ((⟨url, body⟩ : Page).isEmpty = .error e ∨ (⟨url, body⟩ : Page).isEmpty = .ok false ∧
        ((⟨url, body⟩ : Page).next style = .error e ∨
          ∃ u ∈ fetched pager (n + 1), (⟨url, body⟩ : Page).next style = .ok (some u) ∧
            e = leadsBack ⟨url, body⟩ u))
  state_eq : ∀ n url, (pager n).nextUrl = some url → (pager (n + 1)).state =
    match result n with
    | .ok (some _) => .yieldedPage
    | .ok none => .exhausted
    | .error _ => .errored
  /-- Without a URL to fetch a call makes no request and the pager is exhausted. -/
  closes : ∀ n, (pager n).nextUrl = none → (pager n).state.isTerminal = false →
    result n = .ok none ∧ world (n + 1) = world n ∧
      pager (n + 1) = { pager n with state := .exhausted }
  stays : ∀ n, (pager n).state.isTerminal → ∀ m, n ≤ m →
    result m = .ok none ∧ pager m = pager n ∧ world m = world n
  visited_eq : ∀ n, (pager n).visited = (fetched pager n).reverse
  fresh : ∀ n u, (pager n).nextUrl = some u → u ∉ (pager n).visited
  nodup : ∀ n, (fetched pager n).Nodup
  /-- If the pages lead to finitely many URLs, the chain ends. -/
  ends : ∀ urls : Finset Url,
    (∀ n page u, result n = .ok (some page) → page.next style = .ok (some u) → u ∈ urls) →
    ∀ n, (fetched pager n).length ≤ (insert first urls).card ∧
      ((insert first urls).card < n → (pager n).state.isTerminal)

/-- The pager and its world after a number of calls. -/
def after (server : Server σ) (style : PageStyle) (first : Url) (w : World σ) :
    Nat → Pager × World σ
  | 0 => (start style first, w)
  | n + 1 =>
    let before := after server style first w n
    ((call server before.1 before.2).1.2, (call server before.1 before.2).2)

section Run
variable (server : Server σ) (style : PageStyle) (first : Url) (w : World σ)

/-- **Every pager of a run is sound.** -/
theorem sound_after (n : Nat) :
    Sound style (fetched (fun i => (after server style first w i).1) n)
      (after server style first w n).1 := by
  induction n with
  | zero => exact sound_start style first
  | succ n ih =>
    have hcall := ih.call server (after server style first w n).2
    rw [ih.pending_eq] at hcall
    rw [fetched_succ]
    exact hcall

theorem runs_after (n : Nat) :
    Session.run (nextPage server.transport (after server style first w n).1)
        (after server style first w n).2 =
      .ok (.ok ((call server (after server style first w n).1 (after server style first w n).2).1.1,
        (after server style first w (n + 1)).1), (after server style first w (n + 1)).2) :=
  run_nextPage server _ _

theorem after_succ (n : Nat) :
    after server style first w (n + 1) =
      ((call server (after server style first w n).1 (after server style first w n).2).1.2,
        (call server (after server style first w n).1 (after server style first w n).2).2) :=
  rfl

theorem after_of_terminal {n : Nat} (h : (after server style first w n).1.state.isTerminal)
    {m : Nat} (hle : n ≤ m) : after server style first w m = after server style first w n := by
  induction m, hle using Nat.le_induction with
  | base => rfl
  | succ m _ ih => rw [after_succ, ih, call_of_terminal server _ h]

/-- A pager with nothing left to fetch is over one call later. -/
theorem terminal_after_of_no_url {n : Nat}
    (hnone : (after server style first w n).1.nextUrl = none) {m : Nat} (hlt : n < m) :
    (after server style first w m).1.state.isTerminal := by
  have hover : (after server style first w (n + 1)).1.state.isTerminal := by
    rw [after_succ]
    cases hstate : (after server style first w n).1.state.isTerminal with
    | true => rwa [call_of_terminal server _ hstate]
    | false => rw [call_of_no_url (sound_after server style first w n) server _ hnone hstate]; rfl
  rwa [after_of_terminal server style first w hover hlt]

/-- While no call found nothing to fetch, each fetched one URL. -/
theorem length_fetched {pager : Nat → Pager} {n : Nat}
    (h : ∀ i < n, (pager i).nextUrl ≠ none) : (fetched pager n).length = n := by
  induction n with
  | zero => rfl
  | succ n ih =>
    obtain ⟨u, hu⟩ := Option.ne_none_iff_exists'.mp (h n n.lt_succ_self)
    rw [fetched_succ, List.length_append, ih fun i hi => h i (hi.trans n.lt_succ_self), hu]
    rfl

theorem mem_fetched {pager : Nat → Pager} {n : Nat} {u : Url} :
    u ∈ fetched pager n ↔ ∃ i < n, (pager i).nextUrl = some u := by
  simp only [fetched, List.mem_filterMap, List.mem_range]

/-- What a run fetches is the first URL or one that a page led to. -/
theorem eq_first_or_led {result : Nat → Except Error (Option Page)} {pager : Nat → Pager}
    (hbegins : (pager 0).nextUrl = some first)
    (hleads : ∀ n, match result n with
      | .ok (some page) => page.next style = .ok (pager (n + 1)).nextUrl
      | _ => (pager (n + 1)).nextUrl = none) {n : Nat} {u : Url}
    (hu : (pager n).nextUrl = some u) :
    u = first ∨ ∃ i page, result i = .ok (some page) ∧ page.next style = .ok (some u) := by
  cases n with
  | zero => exact .inl (Option.some.inj (hu.symm.trans hbegins))
  | succ i =>
    have hled := hleads i
    split at hled
    · next page hpage => exact .inr ⟨i, page, hpage, hu ▸ hled⟩
    · rw [hu] at hled
      cases hled

/-- A run that fetches no URL twice fetches at most the URLs that its pages lead to and the first
one. -/
theorem length_fetched_le {result : Nat → Except Error (Option Page)} {pager : Nat → Pager}
    (hbegins : (pager 0).nextUrl = some first)
    (hleads : ∀ n, match result n with
      | .ok (some page) => page.next style = .ok (pager (n + 1)).nextUrl
      | _ => (pager (n + 1)).nextUrl = none) {n : Nat} (hnodup : (fetched pager n).Nodup)
    {urls : Finset Url}
    (hurls : ∀ n page u, result n = .ok (some page) → page.next style = .ok (some u) → u ∈ urls) :
    (fetched pager n).length ≤ (insert first urls).card := by
  have hwithin : ∀ u ∈ fetched pager n, u ∈ insert first urls := by
    intro u hu
    obtain ⟨i, -, hi⟩ := mem_fetched.mp hu
    rcases eq_first_or_led style first hbegins hleads hi with rfl | ⟨j, page, hpage, hnext⟩
    · exact Finset.mem_insert_self _ _
    · exact Finset.mem_insert_of_mem (hurls j page u hpage hnext)
  rw [← List.toFinset_card_of_nodup hnodup]
  exact Finset.card_le_card fun u hu => hwithin u (List.mem_toFinset.mp hu)

/-- A run with more calls than URLs fetched is over. -/
theorem terminal_after_of_length_lt {n : Nat}
    (h : (fetched (fun i => (after server style first w i).1) n).length < n) :
    (after server style first w n).1.state.isTerminal := by
  by_contra hopen
  have hfull : (fetched (fun i => (after server style first w i).1) n).length = n :=
    length_fetched fun i hi hnone => hopen (terminal_after_of_no_url server style first w hnone hi)
  omega

/-- The log of a run is the URLs that were fetched. -/
theorem sent_after (n : Nat) :
    (after server style first w n).2.sent.map Prod.snd = w.sent.map Prod.snd ++
      (fetched (fun i => (after server style first w i).1) n).map Server.getRequest := by
  induction n with
  | zero => exact (List.append_nil _).symm
  | succ n ih =>
    have hpending := (sound_after server style first w n).pending_eq
    rw [fetched_succ, List.map_append, ← List.append_assoc, ← ih, ← hpending]
    show (call server _ _).2.sent.map Prod.snd = _
    cases hurl : (after server style first w n).1.pending with
    | none =>
      rw [call_of_no_pending server _ hurl]
      exact (List.append_nil _).symm
    | some url =>
      rw [call_of_pending hurl, Server.fetch_sent, List.map_append]
      rfl

end Run

/-- **The calls of a pager walk a chain.** -/
theorem nextPage_chain (server : Server σ) (style : PageStyle) (first : Url) (w : World σ) :
    ∃ result pager world, world 0 = w ∧ Calls server style first result pager world ∧
      Chain server style first result pager world := by
  let pager n := (after server style first w n).1
  let world n := (after server style first w n).2
  let result n := (call server (pager n) (world n)).1.1
  have hsound n : Sound style (fetched pager n) (pager n) := sound_after server style first w n
  have hpending n : (pager n).pending = (pager n).nextUrl := (hsound n).pending_eq
  have hfetched {n url} (hurl : (pager n).nextUrl = some url) :
      fetched pager (n + 1) = fetched pager n ++ [url] := by
    rw [fetched_succ, hurl]
    rfl
  have hleads n : match result n with
      | .ok (some page) => page.next style = .ok (pager (n + 1)).nextUrl
      | _ => (pager (n + 1)).nextUrl = none := by
    rw [← hpending (n + 1)]
    exact pending_call (hsound n) server (world n)
  refine ⟨result, pager, world, rfl, ⟨rfl, runs_after server style first w⟩, {
    begins := rfl
    leads := hleads
    fetches := fun n url hurl => ?fetches
    sent := sent_after server style first w
    page_iff := fun n url hurl page => ?page_iff
    nothing_iff := fun n url hurl => ?nothing_iff
    error_iff := fun n url hurl e => ?error_iff
    state_eq := fun n url hurl => ?state_eq
    closes := fun n hurl hopen => ?closes
    stays := fun n hterminal m hle => ?stays
    visited_eq := fun n => (hsound n).visited_eq
    fresh := fun n u hu => ?fresh
    nodup := fun n => (hsound n).nodup
    ends := fun urls hurls n => ?ends }⟩
  case fetches => exact congrArg Prod.snd (call_of_pending ((hpending n).trans hurl) server _)
  case page_iff =>
    rw [hfetched hurl]
    exact call_eq_page_iff (hsound n) ((hpending n).trans hurl) server (world n)
  case nothing_iff => exact call_eq_nothing_iff ((hpending n).trans hurl) server (world n)
  case error_iff =>
    rw [hfetched hurl]
    exact call_eq_error_iff (hsound n) ((hpending n).trans hurl) server (world n)
  case state_eq => exact state_call ((hpending n).trans hurl) server (world n)
  case closes =>
    have hcall := call_of_no_url (hsound n) server (world n) hurl hopen
    exact ⟨congrArg (·.1.1) hcall, congrArg (·.2) hcall, congrArg (·.1.2) hcall⟩
  case stays =>
    have hsame := after_of_terminal server style first w hterminal hle
    have hpager : pager m = pager n := congrArg Prod.fst hsame
    refine ⟨?_, hpager, congrArg Prod.snd hsame⟩
    have hover : (pager m).state.isTerminal := by rwa [hpager]
    exact congrArg (·.1.1) (call_of_terminal server (world m) hover)
  case fresh =>
    rw [(hsound n).visited_eq, List.mem_reverse]
    exact (hsound n).fresh u hu
  case ends =>
    have hlength := length_fetched_le style first rfl hleads (hsound n).nodup hurls
    exact ⟨hlength, fun hcard =>
      terminal_after_of_length_lt server style first w (hlength.trans_lt hcard)⟩

end Pager

end CloudApi
