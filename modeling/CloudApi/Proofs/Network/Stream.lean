import CloudApi.Network.Client
import CloudApi.Proofs.Pager.Items
import CloudApi.Proofs.Resource.Lists
import CloudApi.Proofs.Resource.Create

/-! Networks one at a time.

A stream that is polled over and over takes the networks of the pages one at a time (`polls_iff`), so
that it comes to what all networks come to, in the same world, and is never ahead of the page that
holds the last network taken (`stream_agrees_with_listAll`). An error of the pages is the last entry
of a stream; behind a page that does not decode it goes on (`stream_after_error`). -/
namespace CloudApi

namespace NetworkClient
variable {σ : Type} (c : NetworkClient) (peer : Peer σ)

/-- Polls of a stream, one after the other: the entries, and the stream and the world they leave. -/
inductive Polls : Stream → World σ → List (Option (Except Error Network)) → Stream → World σ →
    Prop where
  | stop (s : Stream) (w : World σ) : Polls s w [] s w
  | next {s mid last : Stream} {w between after : World σ} {rounds : Nat}
    {entry : Option (Except Error Network)} {entries : List (Option (Except Error Network))}
    (poll : Session.run (next c peer rounds s) w = .ok (.ok (entry, mid), between))
    (more : Polls mid between entries last after) : Polls s w (entry :: entries) last after

/-- Networks as entries of a stream. -/
def shown (networks : List Network) : List (Option (Except Error Network)) :=
  networks.map fun n => some (.ok n)

variable {c peer}

theorem Polls.of_append {s last : Stream} {w after : World σ}
    {entries more : List (Option (Except Error Network))}
    (h : Polls c peer s w (entries ++ more) last after) :
    ∃ mid between, Polls c peer s w entries mid between ∧
      Polls c peer mid between more last after := by
  induction entries generalizing s w with
  | nil => exact ⟨s, w, .stop s w, h⟩
  | cons entry entries ih =>
    obtain _ | ⟨poll, rest⟩ := h
    obtain ⟨mid, between, hfirst, hmore⟩ := ih rest
    exact ⟨mid, between, .next poll hfirst, hmore⟩

/-- What is taken of a stream comes from polls of it. -/
theorem polls_of_taken {rounds limit : Nat} {s : Stream} {w after : World σ}
    {entries : List (Option (Except Error Network))}
    (h : Session.run (taken c peer rounds limit s) w = .ok (.ok entries, after)) :
    ∃ last, Polls c peer s w entries last after := by
  induction limit generalizing s w entries with
  | zero =>
    cases h
    exact ⟨s, .stop s _⟩
  | succ limit ih =>
    rcases hpoll : Session.run (next c peer rounds s) w with why | ⟨e | ⟨entry, mid⟩, between⟩
    · rw [taken, Session.run_bind_halt hpoll] at h
      cases h
    · rw [taken, Session.run_bind_error hpoll] at h
      cases h
    · rw [taken, Session.run_bind_ok hpoll] at h
      cases entry with
      | none =>
        cases h
        exact ⟨mid, .next hpoll (.stop mid _)⟩
      | some entry =>
        simp only [Session.run_bind_pure] at h
        rcases hrest : Session.run (taken c peer rounds limit mid) between with
          why | ⟨e | rest, last⟩
        · rw [hrest] at h
          cases h
        · rw [hrest] at h
          cases h
        · rw [hrest] at h
          cases h
          obtain ⟨last, hpolls⟩ := ih hrest
          exact ⟨last, .next hpoll hpolls⟩

section Run
variable {result : Nat → Except Error (Option Page)} {pager : Nat → Pager} {world : Nat → World σ}
  (hcalled : Pager.Called (c.transport peer) result pager world)

/-! ### Polls and calls -/

include hcalled in
/-- A poll that fetches a page gives its first network. -/
theorem run_next_of_nil (n rounds : Nat) :
    Session.run (next c peer (rounds + 1) ⟨[], pager n⟩) (world n) =
      match result n with
      | .error e => .ok (.ok (some (.error e), ⟨[], pager (n + 1)⟩), world (n + 1))
      | .ok none => .ok (.ok (none, ⟨[], pager (n + 1)⟩), world (n + 1))
      | .ok (some page) =>
        match page.items c.decode with
        | .error e => .ok (.ok (some (.error e), ⟨[], pager (n + 1)⟩), world (n + 1))
        | .ok items =>
          Session.run (next c peer rounds ⟨items, pager (n + 1)⟩) (world (n + 1)) := by
  rw [next, Session.run_bind_ok (hcalled.run_nextOfStream n)]
  rcases result n with e | _ | page
  · rfl
  · rfl
  · dsimp only [Pager.entry]
    cases page.items c.decode <;> rfl

include hcalled in
theorem run_next {waiting rest : List Network} {n m : Nat} {entry : Option (Except Error Network)}
    (h : Pager.Pull c.decode result waiting n entry rest m) (rounds : Nat) :
    Session.run (next c peer (rounds + 1) ⟨waiting, pager n⟩) (world n) =
      .ok (.ok (entry, ⟨rest, pager m⟩), world m) := by
  cases h with
  | waiting => rfl
  | drained ended => rw [run_next_of_nil hcalled, ended]
  | failed error => rw [run_next_of_nil hcalled, error]
  | unread shown error => simp only [run_next_of_nil hcalled, shown, error]
  | page shown read =>
    simp only [run_next_of_nil hcalled, shown, read]
    cases rounds <;> rfl

include hcalled in
/-- A poll takes an entry, or it has no round to fetch a page in. -/
theorem run_next_cases (waiting : List Network) (n rounds : Nat) :
    (∃ entry rest m, Pager.Pull c.decode result waiting n entry rest m ∧
      Session.run (next c peer rounds ⟨waiting, pager n⟩) (world n) =
        .ok (.ok (entry, ⟨rest, pager m⟩), world m)) ∨
    Session.run (next c peer rounds ⟨waiting, pager n⟩) (world n) = .error .unfinished := by
  rcases rounds with _ | rounds
  · cases waiting with
    | nil => exact .inr rfl
    | cons a rest => exact .inl ⟨_, _, _, .waiting a rest, rfl⟩
  · obtain ⟨entry, rest, m, hpull⟩ := Pager.exists_pull hcalled c.decode waiting n
    exact .inl ⟨entry, rest, m, hpull, run_next hcalled hpull rounds⟩

include hcalled in
/-- **A stream is polled as the items of the pages are taken.** -/
theorem polls_iff {waiting : List Network} {n : Nat}
    {entries : List (Option (Except Error Network))} {last : Stream} {after : World σ} :
    Polls c peer ⟨waiting, pager n⟩ (world n) entries last after ↔
      ∃ rest m, Pager.Pulls c.decode result waiting n entries rest m ∧
        last = ⟨rest, pager m⟩ ∧ after = world m := by
  constructor
  · intro h
    generalize hs : (⟨waiting, pager n⟩ : Stream) = s at h
    generalize hw : world n = w at h
    induction h generalizing waiting n with
    | stop => exact ⟨waiting, n, .stop waiting n, hs.symm, hw.symm⟩
    | next poll _ ih =>
      subst hs hw
      rcases run_next_cases hcalled waiting n _ with ⟨entry, mid, m, hpull, hrun⟩ | hhalted
      · obtain ⟨hpolled, hbetween⟩ := Prod.mk.inj (Except.ok.inj (hrun.symm.trans poll))
        obtain ⟨rfl, hmid⟩ := Prod.mk.inj (Except.ok.inj hpolled)
        obtain ⟨rest, last, hpulls, hlast⟩ := ih hmid hbetween
        exact ⟨rest, last, .next hpull hpulls, hlast⟩
      · cases hhalted.symm.trans poll
  · rintro ⟨rest, m, h, rfl, rfl⟩
    induction h with
    | stop => exact .stop _ _
    | next hpull _ ih => exact .next (run_next hcalled hpull 0) ih

include hcalled in
/-- The GETs of pages that were called for one after the other. -/
theorem steps_of_pages {pages : List Page} {n : Nat}
    (h : ∀ i (hi : i < pages.length), result (n + i) = .ok (some pages[i])) :
    Steps (c.transport peer) (pages.map fun page => .get page.url (.ok page.body)) (world n)
      (world (n + pages.length)) := by
  induction pages generalizing n with
  | nil => exact .done _
  | cons page pages ih =>
    have hget := (hcalled.get_of_page (h 0 (Nat.succ_pos _))).2
    obtain ⟨_, after, htimely, helapsed⟩ := c.client.timely peer page.url (world n)
    obtain ⟨-, rfl⟩ := Prod.mk.inj (Except.ok.inj (htimely.symm.trans hget))
    have hrest := ih (n := n + 1) fun i hi => by
      rw [Nat.add_right_comm]
      exact h (i + 1) (Nat.succ_lt_succ hi)
    rw [List.length_cons, Nat.add_comm pages.length, ← Nat.add_assoc]
    exact .next (.of_run hget helapsed.alarms_eq) hrest

end Run

/-! ### All networks -/

variable (c peer) in
/-- The pager of a list, called over and over: it begins with the networks of the filter, with a
limit in front, that of the client unless the filter has one. -/
theorem exists_calls {home : Url} (h : c.endpoint.collection c.client.base = .ok home)
    (f : NetworkFilter) (w : World σ) :
    ∃ result pager world, c.list f = .ok (pager 0) ∧ c.stream f = .ok ⟨[], pager 0⟩ ∧
      pager 0 = .start c.style (home.appendPairs
        ((if f.limit.isSome then [] else [("limit", Text.Numeral.decimalText c.pageLimit.toNat)]) ++
          f.query.pairs)) ∧
      world 0 = w ∧ Pager.Called (c.transport peer) result pager world := by
  obtain ⟨result, pager, world, hfirst, rfl, hcalled⟩ :=
    Pager.exists_called (c.exists_run_get peer) (.start c.style (home.appendPairs
      ((if f.limit.isSome then [] else [("limit", Text.Numeral.decimalText c.pageLimit.toNat)]) ++
        f.query.pairs))) w
  have hlist : c.list f = .ok (pager 0) := by
    rw [hfirst]
    simp only [list, ResourceClient.list, ResourceClient.listUrl, h, bind, Except.bind, Except.map]
  refine ⟨result, pager, world, hlist, ?_, hfirst, rfl, hcalled⟩
  rw [stream, hlist]
  rfl

/-- All networks come to what the items of the pages come to. -/
theorem run_listAll_iff {result : Nat → Except Error (Option Page)} {pager : Nat → Pager}
    {world : Nat → World σ} (hcalled : Pager.Called (c.transport peer) result pager world)
    {f : NetworkFilter} (hlist : c.list f = .ok (pager 0)) {outcome : Except Error (List Network)}
    {after : World σ} :
    (∃ rounds, Session.run (listAll c peer rounds f) (world 0) = .ok (outcome, after)) ↔
      ∃ items ending last, Pager.Collects c.decode result 0 items ending last ∧
        outcome = ending.map (fun () => items) ∧ after = world last := by
  rw [← Pager.run_allItems_iff hcalled]
  refine exists_congr fun rounds => ?_
  have hrun : Session.run (listAll c peer rounds f) (world 0) =
      Session.run ((pager 0).allItems (c.transport peer) c.decode rounds) (world 0) :=
    Session.run_bind_ok (by rw [show ResourceClient.list c _ _ = _ from hlist]; rfl)
  rw [hrun]

/-- What was fetched for the first networks of a stream, if its calls have these results: the pages
that hold them, and none that begins behind them. -/
structure Fetched (c : NetworkClient) (peer : Peer σ)
    (result : Nat → Except Error (Option Page)) (w : World σ) (networks : List Network) (s : Stream)
    (after : World σ) (pages : List Page) (found : List (List Network)) : Prop where
  shown : ∀ i (hi : i < pages.length), result i = .ok (some pages[i])
  reads : List.Forall₂ (fun page items => page.items c.decode = .ok items) pages found
  flatten_eq : found.flatten = networks ++ s.waiting
  needed : pages = [] ∨ found.dropLast.flatten.length < networks.length
  /-- One GET for each page. -/
  gets : Steps (c.transport peer) (pages.map fun page => .get page.url (.ok page.body)) w after
  /-- In the log a GET shows as copies of one request, the repetitions of it. -/
  logged : ∃ requests,
    Logged c.client (pages.map fun page => .get page.url (.ok page.body)) requests ∧
      after.sent.map Prod.snd = w.sent.map Prod.snd ++ requests

/-- **A stream is a lazy form of all networks.** It gives the networks of all pages and ends as they
end, in the same world; and when some networks were taken, the page that holds the last of them is
the last one fetched. -/
theorem stream_agrees_with_listAll (c : NetworkClient) (peer : Peer σ) (f : NetworkFilter)
    (w : World σ) {home : Url} (h : c.endpoint.collection c.client.base = .ok home) :
    ∃ result pager world, c.stream f = .ok ⟨[], pager 0⟩ ∧ world 0 = w ∧
      Pager.Called (c.transport peer) result pager world ∧
      (∀ networks after,
        (∃ rounds, Session.run (listAll c peer rounds f) w = .ok (.ok networks, after)) ↔
          ∃ last, Polls c peer ⟨[], pager 0⟩ w (shown networks ++ [none]) last after) ∧
      (∀ e after, (∃ rounds, Session.run (listAll c peer rounds f) w = .ok (.error e, after)) ↔
        ∃ networks last,
          Polls c peer ⟨[], pager 0⟩ w (shown networks ++ [some (.error e)]) last after) ∧
      (∀ networks s after, Polls c peer ⟨[], pager 0⟩ w (shown networks) s after →
        ∃ pages found, Fetched c peer result w networks s after pages found) ∧
      ∀ limit, ∃ entries last after, entries.length = limit ∧
        Polls c peer ⟨[], pager 0⟩ w entries last after := by
  obtain ⟨result, pager, world, hlist, hstream, -, rfl, hcalled⟩ := exists_calls c peer h f w
  refine ⟨result, pager, world, hstream, rfl, hcalled, fun networks after => ?all,
    fun e after => ?fails, fun networks s after hpolls => ?lazy, fun limit => ?total⟩
  case all =>
    rw [run_listAll_iff hcalled hlist]
    constructor
    · rintro ⟨items, _ | _, last, hitems, houtcome, rfl⟩
      · cases houtcome
      · obtain rfl := Except.ok.inj houtcome
        exact ⟨_, (polls_iff hcalled).mpr ⟨[], last, hitems.pulls hcalled, rfl, rfl⟩⟩
    · rintro ⟨_, hpolls⟩
      obtain ⟨rest, last, hpulls, -, rfl⟩ := (polls_iff hcalled).mp hpolls
      have hitems : Pager.Collects c.decode result 0 networks (.ok ()) last :=
        (Pager.collects_iff_pulls hcalled).mpr ⟨rest, hpulls⟩
      exact ⟨networks, .ok (), last, hitems, rfl, rfl⟩
  case fails =>
    rw [run_listAll_iff hcalled hlist]
    constructor
    · rintro ⟨items, e' | _, last, hitems, houtcome, rfl⟩
      · obtain rfl := Except.error.inj houtcome
        exact ⟨items, _, (polls_iff hcalled).mpr ⟨[], last, hitems.pulls hcalled, rfl, rfl⟩⟩
      · cases houtcome
    · rintro ⟨networks, _, hpolls⟩
      obtain ⟨rest, last, hpulls, -, rfl⟩ := (polls_iff hcalled).mp hpolls
      have hitems : Pager.Collects c.decode result 0 networks (.error e) last :=
        (Pager.collects_iff_pulls hcalled).mpr ⟨rest, hpulls⟩
      exact ⟨networks, .error e, last, hitems, rfl, rfl⟩
  case lazy =>
    obtain ⟨rest, last, hpulls, rfl, rfl⟩ := (polls_iff hcalled).mp hpolls
    obtain ⟨pages, found, rfl, hshown, hreads, hflatten, hneeded⟩ := Pager.Pulls.position hpulls
    simp only [Nat.zero_add, List.nil_append] at hshown hflatten hneeded ⊢
    have hgets : Steps (c.transport peer) (pages.map fun page => .get page.url (.ok page.body))
        (world 0) (world pages.length) := by
      have hsteps := steps_of_pages hcalled (n := 0) fun i hi => by
        rw [Nat.zero_add]
        exact hshown i hi
      rwa [Nat.zero_add] at hsteps
    exact ⟨pages, found, hshown, hreads, hflatten, hneeded, hgets, hgets.logged⟩
  case total =>
    obtain ⟨entries, rest, last, hlength, hpulls⟩ :=
      Pager.exists_pulls hcalled c.decode limit [] 0
    exact ⟨entries, _, _, hlength, (polls_iff hcalled).mpr ⟨rest, last, hpulls, rfl, rfl⟩⟩

/-! ### After an error -/

/-- Nothing more comes of a stream: every further poll is its end and fetches nothing. -/
structure Over (c : NetworkClient) (peer : Peer σ) (s : Stream) (w : World σ) : Prop where
  polled : ∀ {entries last after}, Polls c peer s w entries last after →
    entries = List.replicate entries.length none ∧ after = w
  lasts : ∀ limit, ∃ last, Polls c peer s w (List.replicate limit none) last w

theorem over_of_no_pending {result : Nat → Except Error (Option Page)} {pager : Nat → Pager}
    {world : Nat → World σ} (hcalled : Pager.Called (c.transport peer) result pager world) {n : Nat}
    (h : (pager n).pending = none) : Over c peer ⟨[], pager n⟩ (world n) where
  polled hpolls := by
    obtain ⟨rest, m, hpulls, -, rfl⟩ := (polls_iff hcalled).mp hpolls
    exact hpulls.of_no_pending hcalled h
  lasts limit := by
    obtain ⟨entries, rest, m, rfl, hpulls⟩ :=
      Pager.exists_pulls hcalled c.decode limit [] n
    obtain ⟨hentries, hworld⟩ := hpulls.of_no_pending hcalled h
    exact ⟨⟨rest, pager m⟩, (polls_iff hcalled).mpr ⟨rest, m, hentries ▸ hpulls, rfl, hworld.symm⟩⟩

/-- How a stream goes on after an error, if its calls have these results. -/
inductive Aftermath (c : NetworkClient) (peer : Peer σ)
    (result : Nat → Except Error (Option Page)) (e : Error) (s : Stream) (after : World σ) : Prop where
  /-- The pages ended in the error. -/
  | ended {n : Nat} (error : result n = .error e) (pending : s.pager.pending = none)
    (done : Over c peer s after)
  /-- The last page does not decode. -/
  | last {n : Nat} {page : Page} (shown : result n = .ok (some page))
    (error : page.items c.decode = .error e) (next : page.next c.style = .ok none)
    (pending : s.pager.pending = none) (done : Over c peer s after)
  /-- A page that leads to another one does not decode: the next poll fetches that one. -/
  | goesOn {n : Nat} {page : Page} {u : Url} {got : Except Error Json} {later : World σ}
    (shown : result n = .ok (some page)) (error : page.items c.decode = .error e)
    (next : page.next c.style = .ok (some u)) (pending : s.pager.pending = some u)
    (fetches : Session.run ((c.transport peer).get u) after = .ok (got, later))
    (polled : ∀ entry last w, Polls c peer s after [entry] last w → w = later)

theorem aftermath_of_polls {result : Nat → Except Error (Option Page)} {pager : Nat → Pager}
    {world : Nat → World σ} (hcalled : Pager.Called (c.transport peer) result pager world)
    (hstyle : (pager 0).style = c.style) {before : List (Option (Except Error Network))} {e : Error}
    {s : Stream} {after : World σ}
    (h : Polls c peer ⟨[], pager 0⟩ (world 0) (before ++ [some (.error e)]) s after) :
    Aftermath c peer result e s after := by
  obtain ⟨rest, m, hpulls, rfl, rfl⟩ := (polls_iff hcalled).mp h
  obtain ⟨mid, n, hpull⟩ := hpulls.of_append_singleton
  cases hpull with
  | failed error =>
    have hpending := hcalled.pending_of_error error
    exact .ended error hpending (over_of_no_pending hcalled hpending)
  | @unread n page _ shown error =>
    have hnext := hcalled.next_of_page shown
    rw [hstyle] at hnext
    cases hpending : (pager (n + 1)).pending with
    | none =>
      rw [hpending] at hnext
      exact .last shown error hnext hpending (over_of_no_pending hcalled hpending)
    | some u =>
      rw [hpending] at hnext
      rcases Pager.run_nextPage_cases (hcalled (n + 1)) with ⟨hnone, -⟩ | ⟨url, got, hurl, hget, -⟩
      · cases hnone.symm.trans hpending
      obtain rfl := Option.some.inj (hurl.symm.trans hpending)
      refine .goesOn shown error hnext hpending hget fun entry last w hpolls => ?_
      obtain ⟨rest, m, hmore, -, rfl⟩ := (polls_iff hcalled).mp hpolls
      -- nothing is left of the page, so that the poll makes one call
      obtain _ | ⟨pull, done⟩ := hmore
      cases done
      cases pull <;> rfl

/-- **What an error of a stream is followed by.** Of the errors of a stream those of the pages end
it, and so does that of a last page that does not decode; behind any other page that does not decode
the stream goes on. -/
theorem stream_after_error (c : NetworkClient) (peer : Peer σ) (f : NetworkFilter) (w : World σ)
    {home : Url} (h : c.endpoint.collection c.client.base = .ok home) :
    ∃ result pager world, c.stream f = .ok ⟨[], pager 0⟩ ∧ world 0 = w ∧
      Pager.Called (c.transport peer) result pager world ∧
      ∀ before e s after,
        Polls c peer ⟨[], pager 0⟩ w (before ++ [some (.error e)]) s after →
          Aftermath c peer result e s after := by
  obtain ⟨result, pager, world, -, hstream, hfirst, rfl, hcalled⟩ := exists_calls c peer h f w
  have hstyle : (pager 0).style = c.style := by
    rw [hfirst]
    rfl
  exact ⟨result, pager, world, hstream, rfl, hcalled, fun before e s after hpolls =>
    aftermath_of_polls hcalled hstyle hpolls⟩

/-! ### A page in the middle that does not decode -/

/-- A service with three pages of networks, the second of which has a number in place of one. -/
def patchy : Peer Nat :=
  .inOrder fun n => ⟨1, .answered 200 (String.toUTF8 (match n with
    | 0 => "\x7b\"results\":[\x7b\"id\":\"726ecfcc-7fd0-4e30-a86b-7ed1aa6d8a4b\",\"name\":\"a\"\x7d]," ++
      "\"links\":[\x7b\"rel\":\"next\",\"href\":\"?page=2\"\x7d]\x7d"
    | 1 => "\x7b\"results\":[5],\"links\":[\x7b\"rel\":\"next\",\"href\":\"?page=3\"\x7d]\x7d"
    | _ => "\x7b\"results\":[\x7b\"id\":\"0a2fd17f-5a1d-44b5-92b9-3bb0a8f5a9a2\",\"name\":\"b\"\x7d]\x7d")).toList⟩

/-- The stream of all networks of a service, before anything is fetched. -/
def unread : Stream :=
  ⟨[], .start .linked ((serviceUrl ["v1", "networks", "1", "2"]).appendPairs [("limit", "50")])⟩

/-- How an entry shows: the name of a network, or that there is none in it. -/
def title (entry : Option (Except Error Network)) : Option (Option String) :=
  entry.map fun n => n.toOption.map Network.name

theorem eq_ok_of_title {entry : Option (Except Error Network)} {name : String}
    (h : title entry = some (some name)) : ∃ n, entry = some (.ok n) ∧ n.name = name := by
  rcases entry with _ | e | n
  · cases h
  · cases h
  · exact ⟨n, rfl, Option.some.inj (Option.some.inj h)⟩

theorem eq_error_of_title {entry : Option (Except Error Network)} (h : title entry = some none) :
    ∃ e, entry = some (.error e) := by
  rcases entry with _ | e | n
  · cases h
  · exact ⟨e, rfl⟩
  · cases h

/-- The stream gives the network of the first page, an error and the network of the last page. -/
theorem polls_patchy :
    ∃ a e b mid between last after,
      Polls creatingNetworks patchy unread ⟨0, [], [], 0⟩ ([some (.ok a)] ++ [some (.error e)]) mid
        between ∧
      Polls creatingNetworks patchy mid between [some (.ok b)] last after ∧ b.name = "b" ∧
      after.sent.length = 3 := by
  have hends : (Session.run (taken creatingNetworks patchy 1 3 unread) ⟨0, [], [], 0⟩).map
      (fun (outcome, after) => (outcome.map (List.map title), after.sent.length)) =
      .ok (.ok [some (some "a"), some none, some (some "b")], 3) := by decide +kernel
  obtain ⟨⟨outcome, after⟩, hrun, hresult⟩ := exists_of_map_eq_ok hends
  obtain ⟨hentries, hsent⟩ := Prod.mk.inj hresult
  obtain ⟨entries, rfl, htitles⟩ := exists_of_map_eq_ok hentries
  simp only [List.map_eq_cons_iff, List.map_eq_nil_iff] at htitles
  obtain ⟨_, _, rfl, ha, _, _, rfl, he, _, _, rfl, hb, rfl⟩ := htitles
  obtain ⟨a, rfl, -⟩ := eq_ok_of_title ha
  obtain ⟨e, rfl⟩ := eq_error_of_title he
  obtain ⟨b, rfl, hname⟩ := eq_ok_of_title hb
  obtain ⟨last, hpolls⟩ := polls_of_taken hrun
  change Polls _ _ _ _ (([some (.ok a)] ++ [some (.error e)]) ++ [some (.ok b)]) _ _ at hpolls
  obtain ⟨mid, between, herror, hmore⟩ := hpolls.of_append
  exact ⟨a, e, b, mid, between, last, after, herror, hmore, hname, hsent⟩

/-- Taking one network fetches one page, and the error of the second page is the one that all
networks come to, after two GETs. -/
theorem stream_agrees_with_listAll_of_patchy :
    ∃ home, creatingNetworks.endpoint.collection creatingNetworks.client.base = .ok home ∧
      creatingNetworks.stream .empty = .ok unread ∧
      (∃ e networks last after,
        Session.run (listAll creatingNetworks patchy 2 .empty) ⟨0, [], [], 0⟩ =
          .ok (.error e, after) ∧
        Polls creatingNetworks patchy unread ⟨0, [], [], 0⟩ (shown networks ++ [some (.error e)]) last
          after ∧ after.sent.length = 2) ∧
      ∃ n s after result pages found, n.name = "a" ∧
        Polls creatingNetworks patchy unread ⟨0, [], [], 0⟩ (shown [n]) s after ∧
        Fetched creatingNetworks patchy result ⟨0, [], [], 0⟩ [n] s after pages found ∧
        after.sent.length = 1 := by
  have hhome : creatingNetworks.endpoint.collection creatingNetworks.client.base =
      .ok (serviceUrl ["v1", "networks", "1", "2"]) := by decide +kernel
  have hunread : creatingNetworks.stream .empty = .ok unread := by decide +kernel
  obtain ⟨result, pager, world, hstream, -, -, -, hfails, hlazy, -⟩ :=
    stream_agrees_with_listAll creatingNetworks patchy .empty ⟨0, [], [], 0⟩ hhome
  obtain hfirst := Except.ok.inj (hstream.symm.trans hunread)
  rw [hfirst] at hfails hlazy
  refine ⟨_, hhome, hunread, ?fails, ?lazy⟩
  case fails =>
    have hends : (Session.run (listAll creatingNetworks patchy 2 .empty) ⟨0, [], [], 0⟩).map
        (fun (outcome, after) => (outcome.toOption, after.sent.length)) = .ok (none, 2) := by
      decide +kernel
    obtain ⟨⟨e | _, after⟩, hrun, hresult⟩ := exists_of_map_eq_ok hends
    · obtain ⟨networks, last, hpolls⟩ := (hfails e after).mp ⟨2, hrun⟩
      exact ⟨e, networks, last, after, hrun, hpolls, (Prod.mk.inj hresult).2⟩
    · cases hresult
  case lazy =>
    have hends : (Session.run (taken creatingNetworks patchy 1 1 unread) ⟨0, [], [], 0⟩).map
        (fun (outcome, after) => (outcome.map (List.map title), after.sent.length)) =
        .ok (.ok [some (some "a")], 1) := by decide +kernel
    obtain ⟨⟨outcome, after⟩, hrun, hresult⟩ := exists_of_map_eq_ok hends
    obtain ⟨hentries, hsent⟩ := Prod.mk.inj hresult
    obtain ⟨entries, rfl, htitles⟩ := exists_of_map_eq_ok hentries
    simp only [List.map_eq_cons_iff, List.map_eq_nil_iff] at htitles
    obtain ⟨_, _, rfl, hn, rfl⟩ := htitles
    obtain ⟨n, rfl, hname⟩ := eq_ok_of_title hn
    obtain ⟨s, hpolls⟩ := polls_of_taken hrun
    obtain ⟨pages, found, hfetched⟩ := hlazy [n] s after hpolls
    exact ⟨n, s, after, result, pages, found, hname, hpolls, hfetched, hsent⟩

/-- The error of the second page is that of a page that does not decode, and the next poll fetches
the page it leads to. -/
theorem stream_after_error_of_patchy :
    ∃ home, creatingNetworks.endpoint.collection creatingNetworks.client.base = .ok home ∧
      creatingNetworks.stream .empty = .ok unread ∧
      ∃ before e s after, ∃ page : Page, ∃ u got later,
        Polls creatingNetworks patchy unread ⟨0, [], [], 0⟩ (before ++ [some (.error e)]) s after ∧
        page.items creatingNetworks.decode = .error e ∧
        page.next creatingNetworks.style = .ok (some u) ∧
        Session.run ((creatingNetworks.transport patchy).get u) after = .ok (got, later) := by
  have hhome : creatingNetworks.endpoint.collection creatingNetworks.client.base =
      .ok (serviceUrl ["v1", "networks", "1", "2"]) := by decide +kernel
  have hunread : creatingNetworks.stream .empty = .ok unread := by decide +kernel
  obtain ⟨a, e, b, s, after, _, _, hpolls, hmore, -⟩ := polls_patchy
  obtain ⟨result, pager, world, hstream, -, -, hafter⟩ :=
    stream_after_error creatingNetworks patchy .empty ⟨0, [], [], 0⟩ hhome
  obtain hfirst := Except.ok.inj (hstream.symm.trans hunread)
  rw [hfirst] at hafter
  refine ⟨_, hhome, hunread, ?_⟩
  cases hafter _ _ _ _ hpolls with
  | ended _ _ done => cases (done.polled hmore).1
  | last _ _ _ _ done => cases (done.polled hmore).1
  | goesOn _ error next _ fetches => exact ⟨_, e, s, after, _, _, _, _, hpolls, error, next, fetches⟩

/-- An error does not end a stream: all networks come to the error of the second page after two GETs,
but the stream goes on behind it, with a third GET and a network. -/
theorem stream_goes_on_behind_error :
    creatingNetworks.stream .empty = .ok unread ∧
      ((Session.run (listAll creatingNetworks patchy 9 .empty) ⟨0, [], [], 0⟩).map
        fun (outcome, after) => (outcome.toOption, after.sent.length)) = .ok (none, 2) ∧
      ∃ before e s after n last later,
        Polls creatingNetworks patchy unread ⟨0, [], [], 0⟩ (before ++ [some (.error e)]) s after ∧
        Polls creatingNetworks patchy s after [some (.ok n)] last later ∧ n.name = "b" ∧
        later.sent.length = 3 ∧ ¬ Over creatingNetworks patchy s after := by
  refine ⟨by decide +kernel, by decide +kernel, ?_⟩
  obtain ⟨a, e, b, s, after, last, later, hpolls, hmore, hname, hsent⟩ := polls_patchy
  refine ⟨_, e, s, after, b, last, later, hpolls, hmore, hname, hsent, fun hover => ?_⟩
  cases (hover.polled hmore).1

end NetworkClient

end CloudApi
