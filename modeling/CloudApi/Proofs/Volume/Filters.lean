import CloudApi.Proofs.Pager.Offset
import CloudApi.Proofs.Resource.Lists
import CloudApi.Proofs.Endpoint
import CloudApi.Proofs.Query
import CloudApi.Volume.Client

/-! Filters survive paging.

The URL of a list is that of all volumes with pairs behind it. Along a run only the offset among
them changes (`Asks.next`), because a page leads to its own URL with another offset and pairs are
read back as they were written. The offset grows by the items of each page, so that every GET asks
for the same limit and the same filter, in the same order, from behind what was seen
(`listAll_asks`). -/
namespace CloudApi

open Text

/-! ### The pairs of a filter -/

namespace VolumeFilter

/-- What the filter asks for but for the offset. -/
def kept (f : VolumeFilter) : List (String × String) :=
  f.query.pairs.filter (·.1 != "offset")

/-- The pair for the offset, if one is set. -/
def offsetPairs (f : VolumeFilter) : List (String × String) :=
  f.offset.toList.map fun n => ("offset", Numeral.decimalText n.toNat)

/-- The pairs of a filter are grouped by their keys, the offset last. -/
theorem query_pairs (f : VolumeFilter) : f.query.pairs =
    f.instanceId.toList.map (fun id => ("instance_id", id.text)) ++
    f.bootable.toList.map (fun b => ("bootable", Query.boolText b)) ++
    f.hasAttachments.toList.map (fun b => ("has_attachments", Query.boolText b)) ++
    f.namePart.toList.map (fun name => ("name_part", name)) ++
    f.metadataKeys.map (fun key => ("metadata_k", key)) ++
    f.limit.toList.map (fun n => ("limit", Numeral.decimalText n.toNat)) ++ f.offsetPairs := by
  simp only [query, Query.pairs_pushOption, Query.pushAll, Query.empty, List.nil_append,
    Option.toList_map, List.map_map, offsetPairs]
  rfl

theorem query_pairs_eq (f : VolumeFilter) : f.query.pairs = f.kept ++ f.offsetPairs := by
  simp [kept, query_pairs, offsetPairs, List.filter_map, Function.comp_def]

/-- There is a limit among the pairs if the filter has one, and then only one. -/
theorem countP_limit_kept (f : VolumeFilter) :
    f.kept.countP (·.1 == "limit") = if f.limit.isSome then 1 else 0 := by
  have hcount : f.kept.countP (·.1 == "limit") = f.limit.toList.length := by
    simp [kept, query_pairs, offsetPairs, List.filter_map, Function.comp_def, List.countP_map]
  rw [hcount]
  cases f.limit <;> rfl

end VolumeFilter

/-! ### The URLs of a run -/

namespace Client

/-- Taking user and password out of a URL leaves all but its authority. -/
theorem exists_eq_withoutCredentials (u : Url) :
    ∃ authority, withoutCredentials u = { u with authority } := by
  unfold withoutCredentials
  split <;> exact ⟨_, rfl⟩

theorem withoutCredentials_withQuery (u : Url) (query : Option (List Char)) :
    withoutCredentials { u with query } = { withoutCredentials u with query } := by
  have hsame : credentials? { u with query } = credentials? u := rfl
  unfold withoutCredentials
  rw [hsame]
  cases credentials? u <;> rfl

theorem isWeb_of_obstacle {c : Client} {u : Url} (h : c.obstacle? u = none) : isWeb u := by
  unfold obstacle? at h
  grind

end Client

namespace VolumeClient
variable (c : VolumeClient) (f : VolumeFilter) (home : Url)

/-- What every GET of a list asks for: a limit, that of the client unless the filter has one, and
the filter. -/
def standing : List (String × String) :=
  (if f.limit.isSome then [] else [("limit", Numeral.decimalText c.pageLimit.toNat)]) ++ f.kept

/-- The URL of a GET of a list: all but the query is that of all volumes, and the pairs are the
standing ones with the offset behind them. -/
structure Asks (offset : Option Nat) (u : Url) : Prop where
  place : ∃ query, u = { home with query }
  pairs : u.queryPairs = c.standing f ++
    offset.toList.map fun n => ("offset", Numeral.decimalText n)

theorem ne_offset_of_mem_standing {pair : String × String} (h : pair ∈ c.standing f) :
    pair.1 ≠ "offset" := by
  rcases List.mem_append.mp h with h | h
  · split at h
    · cases h
    · rw [List.mem_singleton.mp h]
      show "limit" ≠ "offset"
      decide
  · simpa using (List.mem_filter.mp h).2

theorem countP_limit_standing : (c.standing f).countP (·.1 == "limit") = 1 := by
  rw [standing, List.countP_append, f.countP_limit_kept]
  split <;> rfl

section Asks
variable {c f home} {offset : Option Nat} {u : Url}

/-- **Every GET has exactly one limit.** -/
theorem Asks.countP_limit (h : c.Asks f home offset u) :
    u.queryPairs.countP (·.1 == "limit") = 1 := by
  rw [h.pairs, List.countP_append, c.countP_limit_standing]
  cases offset <;> rfl

theorem Asks.asked (h : c.Asks f home offset u) (hfit : offset.getD 0 < 2 ^ 64) :
    u.asked = offset.getD 0 := by
  have hnone : (c.standing f).find? (fun pair => pair.1 == "offset") = none := by
    rw [List.find?_eq_none]
    exact fun pair hpair => by simpa using c.ne_offset_of_mem_standing f hpair
  unfold Url.asked Url.numericParam
  rw [h.pairs, List.find?_append, hnone]
  cases offset with
  | none => rfl
  | some n =>
    change n < 2 ^ 64 at hfit
    show ((Numeral.uint64? (Numeral.decimalText n).toList).getD 0).toNat = n
    rw [Numeral.decimalText, String.toList_ofList, Numeral.uint64?_decimal hfit, Option.getD_some,
      Nat.toUInt64_eq, UInt64.toNat_ofNat']
    exact Nat.mod_eq_of_lt hfit

/-- With another offset in place of the one it has, the URL asks for all else as before. -/
theorem Asks.replaceParam (h : c.Asks f home offset u) (hbare : home.Bare)
    (hspecial : Url.isSpecial u.scheme) (n : Nat) :
    c.Asks f home (some n) (u.replaceParam "offset" (Numeral.decimalText n)) where
  place := by
    obtain ⟨query, rfl⟩ := h.place
    obtain ⟨list, hlist⟩ := hbare.segments hspecial
    exact Url.exists_eq_replaceParam (u := { home with query }) hlist _ _
  pairs := by
    have hkeep : (c.standing f).filter (fun pair => pair.1 != "offset") = c.standing f :=
      List.filter_eq_self.mpr fun pair hpair => by
        simpa using c.ne_offset_of_mem_standing f hpair
    rw [Url.queryPairs_replaceParam, h.pairs, List.filter_append, hkeep]
    cases offset <;> simp

end Asks

/-- The items that a call shows as they came. -/
def shown : Except Error (Option Page) → List Json
  | .ok (some page) =>
    match page.body.get? "results" with
    | some (.array items) => items
    | _ => []
  | _ => []

/-- How many items the first calls have shown. -/
def total (result : Nat → Except Error (Option Page)) (n : Nat) : Nat :=
  ((List.range n).map fun i => (shown (result i)).length).sum

theorem total_succ (result : Nat → Except Error (Option Page)) (n : Nat) :
    total result (n + 1) = total result n + (shown (result n)).length := by
  rw [total, List.range_succ, List.map_append, List.sum_append]
  rfl

/-- The offset of a GET: for the first page what the filter sets, for a later one that moved on by
the items of all pages before. -/
def offsetAt (f : VolumeFilter) (result : Nat → Except Error (Option Page)) : Nat → Option Nat
  | 0 => f.offset.map UInt32.toNat
  | n + 1 => some ((f.offset.getD 0).toNat + total result (n + 1))

theorem getD_offsetAt (result : Nat → Except Error (Option Page)) (n : Nat) :
    (offsetAt f result n).getD 0 = (f.offset.getD 0).toNat + total result n := by
  cases n with
  | zero =>
    show (f.offset.map UInt32.toNat).getD 0 = (f.offset.getD 0).toNat
    cases f.offset <;> rfl
  | succ n => rfl

/-! ### A run of calls -/

/-- The URL of the first page. -/
theorem listUrl_eq (h : c.endpoint.collection c.client.base = .ok home) :
    c.listUrl f.limit.isSome f.query = .ok (home.appendPairs
      (c.standing f ++ f.offsetPairs)) := by
  simp only [ResourceClient.listUrl, h, bind, Except.bind, f.query_pairs_eq, standing,
    List.append_assoc]

section Run
variable {c f home} {σ : Type} {peer : Peer σ} {result : Nat → Except Error (Option Page)}
  {pager : Nat → Pager} {world : Nat → World σ}
  (hcalled : Pager.Called (c.transport peer) result pager world)
  (hfirst : pager 0 = .start .offset (home.appendPairs (c.standing f ++ f.offsetPairs)))
  (hbare : home.Bare)

theorem asks_first (hbare : home.Bare) :
    c.Asks f home (f.offset.map UInt32.toNat)
      (home.appendPairs (c.standing f ++ f.offsetPairs)) where
  place := Url.exists_eq_appendPairs home _
  pairs := by
    rw [Url.queryPairs_appendPairs, Url.queryPairs, hbare.query, VolumeFilter.offsetPairs]
    cases f.offset <;> rfl

include hcalled hfirst hbare in
/-- **Every URL that comes up in a run asks for the standing pairs, from behind what was shown.** -/
theorem asks_pending {n : Nat} {u : Url} (hurl : (pager n).pending = some u)
    (hfit : (f.offset.getD 0).toNat + total result n < 2 ^ 64) :
    c.Asks f home (offsetAt f result n) u := by
  induction n generalizing u with
  | zero =>
    rw [hfirst] at hurl
    obtain rfl := Option.some.inj hurl
    exact asks_first hbare
  | succ n ih =>
    obtain ⟨page, hpage, hurl', hnext⟩ := hcalled.pending_succ hurl
    rw [hcalled.style_eq, hfirst] at hnext
    obtain ⟨items, hitems, rfl⟩ := Page.eq_of_next_offset hnext
    have hshown : (shown (result n)).length = items.length := by
      rw [hpage, shown, hitems]
    rw [total_succ, hshown, ← Nat.add_assoc] at hfit
    have hasks := ih hurl' (by omega)
    have hasked : page.url.asked = (f.offset.getD 0).toNat + total result n := by
      rw [hasks.asked (by rw [getD_offsetAt]; omega), getD_offsetAt]
    have hweb : Client.isWeb page.url := Client.isWeb_of_obstacle
      (ResourceClient.obstacle_of_run_get (hcalled.get_of_page hpage).2)
    have hreached : (page.offset + items.length.toUInt64).toNat = page.url.asked + items.length :=
      Page.toNat_reached page.url (by rw [hasked]; exact hfit)
    rw [hreached, hasked, offsetAt, total_succ, hshown, Nat.add_assoc]
    exact hasks.replaceParam hbare (Client.special_of_isWeb hweb).1 _

end Run

/-! ### The requests of a list -/

/-- A GET of a list as it is sent. -/
structure Sends (offset : Option Nat) (r : Request) : Prop where
  method : r.method = .get
  /-- It goes where the GET of all volumes goes. -/
  place : ∃ query, r.url = { Client.withoutCredentials home with query }
  path : r.url.path = home.path
  fragment : r.url.fragment = none
  pairs : r.url.queryPairs = c.standing f ++
    offset.toList.map fun n => ("offset", Numeral.decimalText n)
  limit : r.url.queryPairs.countP (·.1 == "limit") = 1

theorem Asks.sends {c : VolumeClient} {f : VolumeFilter} {home : Url} {offset : Option Nat}
    {u : Url} (h : c.Asks f home offset u) (hbare : home.Bare) :
    c.Sends f home offset (c.client.request .get u none) := by
  have hpairs := h.pairs
  have hlimit := h.countP_limit
  obtain ⟨query, rfl⟩ := h.place
  have hurl : (c.client.request .get { home with query } none).url =
      { Client.withoutCredentials home with query } :=
    Client.withoutCredentials_withQuery home query
  obtain ⟨authority, hrest⟩ := Client.exists_eq_withoutCredentials home
  refine ⟨rfl, ⟨query, hurl⟩, ?_, ?_, by rw [hurl]; exact hpairs, by rw [hurl]; exact hlimit⟩
  · rw [hurl, hrest]
  · rw [hurl, hrest]
    exact hbare.fragment

/-- **Filters survive paging.** Unless the version begins a query or a fragment itself, every GET
that lists the volumes of a filter goes to the URL of all volumes and asks for a limit, for the
filter and for what comes behind the items of the pages before, in this order and for nothing
else. -/
theorem listAll_sends {σ : Type} {s : ResourceSetup} {c : VolumeClient} (hbuild : build s = .ok c)
    (hweb : Client.isWeb s.client.base)
    (hversion : '?' ∉ s.version.toList ∧ '#' ∉ s.version.toList) (peer : Peer σ)
    (f : VolumeFilter) (w : World σ) :
    (∃ e, c.endpoint.collection c.client.base = .error e ∧
      ∀ rounds, Session.run (c.listAll peer rounds f) w = .ok (.error e, w)) ∨
    ∃ home result pager world, c.endpoint.collection c.client.base = .ok home ∧
      c.list f = .ok (pager 0) ∧ world 0 = w ∧
      Pager.Called (c.transport peer) result pager world ∧
      (∀ n, (f.offset.getD 0).toNat + total result n < 2 ^ 64 →
        world (n + 1) = world n ∨ ∃ r copies, c.Sends f home (offsetAt f result n) r ∧
          (world (n + 1)).sent.map Prod.snd =
            (world n).sent.map Prod.snd ++ List.replicate copies r) ∧
      ∀ rounds,
        (∃ n outcome, n < rounds ∧ (∀ i < n, ∃ page, result i = .ok (some page)) ∧
          Session.run (c.listAll peer rounds f) w = .ok (outcome, world (n + 1))) ∨
        (∀ i < rounds, ∃ page, result i = .ok (some page)) ∧
          Session.run (c.listAll peer rounds f) w = .error .unfinished := by
  have hc := ResourceSetup.eq_of_build hbuild
  cases hhome : c.endpoint.collection c.client.base with
  | error e =>
    refine .inl ⟨e, rfl, fun rounds => c.run_listAll_of_error peer ?_ rounds w⟩
    simp only [ResourceClient.list, ResourceClient.listUrl, hhome, bind, Except.bind, Except.map]
  | ok home =>
    have hbare : home.Bare := by
      rw [hc] at hhome
      refine Endpoint.bare_collection (Client.special_of_isWeb hweb).2 (fun ch hch => ?_) hhome
      by_contra htail
      rw [Bool.not_eq_false, Url.isTail, Bool.or_eq_true, beq_iff_eq, beq_iff_eq] at htail
      rcases htail with rfl | rfl
      · exact hversion.1 hch
      · exact hversion.2 hch
    have hstyle : c.style = .offset := by rw [hc]
    have hlist : c.list f = .ok (.start .offset
        (home.appendPairs (c.standing f ++ f.offsetPairs))) := by
      unfold list ResourceClient.list
      rw [listUrl_eq c f home hhome, hstyle]
      rfl
    obtain ⟨result, pager, world, hfirst, rfl, hcalled, hrun⟩ := c.run_listAll peer hlist w
    refine .inr ⟨home, result, pager, world, rfl, hlist.trans (by rw [hfirst]), rfl, hcalled,
      fun n hfit => ?_, hrun⟩
    rcases ResourceClient.sent_of_call hcalled n with hsame | ⟨u, copies, hurl, hsent⟩
    · exact .inl hsame
    · exact .inr ⟨_, copies, (asks_pending hcalled hfirst hbare hurl hfit).sends hbare, hsent⟩

/-! ### Lists of a service -/

def listingSetup (version : String) : ResourceSetup :=
  ⟨⟨serviceUrl [""], .standard, none, "agent"⟩, version, 1, 2, 50, .standard⟩

def listingClient (version : String) : VolumeClient :=
  ⟨⟨serviceUrl [""], .standard, none, "agent"⟩, ⟨version, .volumes, 1, 2⟩, .offset,
    Volume.record.decode, 50, .standard⟩

/-- A service of five volumes that shows one at a time. -/
def holding : Peer Unit := fun state _ =>
  (⟨1, .answered 200 (String.toUTF8 ("\x7b\"count\":5,\"results\":[" ++
    "\x7b\"id\":\"726ecfcc7fd04e30a86b7ed1aa6d8a4b\",\"name\":\"a\",\"size\":1,\"status\":\"\"," ++
    "\"volume_type\":\"\"\x7d]\x7d")).toList⟩, state)

/-- A filter whose texts are full of separators. -/
def oddFilter : VolumeFilter :=
  { VolumeFilter.empty with
    namePart := some "a&b=%#"
    metadataKeys := ["k+1"]
    offset := some 3 }

/-- What a GET of that filter asks for. -/
def oddPairs (offset : String) : List (String × String) :=
  [("limit", "50"), ("name_part", "a&b=%#"), ("metadata_k", "k+1"), ("offset", offset)]

/-- Calls of a pager: how many items each shows, and how many requests were sent by then. -/
def tally {σ : Type} (t : Transport σ) : Nat → Pager → Session σ (List (Nat × Nat))
  | 0, _ => return []
  | n + 1, pager => do
    let (result, pager) ← pager.nextPage t
    let w ← get
    return ((shown result).length, w.sent.length) :: (← tally t n pager)

theorem run_tally {σ : Type} {t : Transport σ} {result : Nat → Except Error (Option Page)}
    {pager : Nat → Pager} {world : Nat → World σ} (hcalled : Pager.Called t result pager world)
    (n i : Nat) :
    Session.run (tally t n (pager i)) (world i) =
      .ok (.ok ((List.range' i n).map fun k => ((shown (result k)).length,
        (world (k + 1)).sent.length)), world (i + n)) := by
  induction n generalizing i with
  | zero => rfl
  | succ n ih =>
    rw [tally, Session.run_bind_ok (hcalled i)]
    show Session.run (tally t n (pager (i + 1)) >>= _) (world (i + 1)) = _
    rw [Session.run_bind_ok (ih (i + 1)), Nat.add_assoc, Nat.add_comm 1 n]
    rfl

/-- What is sent in a call is known by its number. -/
theorem exists_requests_of_length {σ : Type} {p : Request → Prop} {w after : World σ} {k : Nat}
    (h : after = w ∨ ∃ r copies, p r ∧
      after.sent.map Prod.snd = w.sent.map Prod.snd ++ List.replicate copies r)
    (hlength : after.sent.length = w.sent.length + k) :
    ∃ requests, requests.length = k ∧ (∀ r ∈ requests, p r) ∧
      after.sent.map Prod.snd = w.sent.map Prod.snd ++ requests := by
  rcases h with rfl | ⟨r, copies, hr, hsent⟩
  · have hk : k = 0 := by omega
    exact ⟨[], hk.symm, List.forall_mem_nil _, (List.append_nil _).symm⟩
  · have hcopies := congrArg List.length hsent
    rw [List.length_append, List.length_map, List.length_map, List.length_replicate] at hcopies
    refine ⟨_, by rw [List.length_replicate]; omega, fun r' hr' => ?_, hsent⟩
    rw [List.eq_of_mem_replicate hr']
    exact hr

/-- The filter is asked for on the first page and, with the offset moved on, on the page behind it. -/
theorem listAll_sends_odd_filter :
    build (listingSetup "v1") = .ok (listingClient "v1") ∧
      ∃ volumes after, Session.run ((listingClient "v1").listAll holding 3 oddFilter)
        ⟨0, [], [], ()⟩ = .ok (.ok volumes, after) ∧ volumes.length = 2 ∧
        after.sent.map (fun (_, r) => r.url.queryPairs) = [oddPairs "3", oddPairs "4"] := by
  have hbuild : build (listingSetup "v1") = .ok (listingClient "v1") := rfl
  have hends : (Session.run ((listingClient "v1").listAll holding 3 oddFilter)
      ⟨0, [], [], ()⟩).map (fun (outcome, after) =>
        (outcome.map List.length, after.sent.length)) = .ok (.ok 2, 2) := by
    decide +kernel
  refine ⟨hbuild, ?_⟩
  rcases listAll_sends hbuild (by decide) (by decide) holding oddFilter ⟨0, [], [], ()⟩ with
    ⟨e, -, hnothing⟩ | ⟨home, result, pager, world, -, hlist, hworld, hcalled, hsends, hrun⟩
  · rw [hnothing 3] at hends
    cases hends
  have htally : (Session.run (Session.ofExcept ((listingClient "v1").list oddFilter) >>=
      tally ((listingClient "v1").transport holding) 3) ⟨0, [], [], ()⟩).map Prod.fst =
        .ok (.ok [(1, 1), (1, 2), (0, 2)]) := by
    decide +kernel
  rw [hlist, Session.run_bind_ok rfl, ← hworld, run_tally hcalled 3 0] at htally
  obtain ⟨⟨hshown, hone⟩, ⟨hshown', htwo⟩, -, hthree⟩ :
      ((shown (result 0)).length = 1 ∧ (world 1).sent.length = 1) ∧
        ((shown (result 1)).length = 1 ∧ (world 2).sent.length = 2) ∧
        (shown (result 2)).length = 0 ∧ (world 3).sent.length = 2 := by
    simpa [Except.map, List.range'] using htally
  have hstart : (world 0).sent = [] := by rw [hworld]
  have hnone : total result 0 = 0 := rfl
  have htotal : total result 1 = 1 := by rw [total_succ, hshown, hnone]
  have htotal' : total result 2 = 2 := by rw [total_succ, hshown', htotal]
  obtain ⟨requests, hlength, hasked, hfirst⟩ := exists_requests_of_length (k := 1)
    (hsends 0 (by rw [hnone]; decide)) (by rw [hone, hstart]; rfl)
  obtain ⟨r, rfl⟩ := List.length_eq_one_iff.mp hlength
  obtain ⟨requests, hlength, hasked', hsecond⟩ := exists_requests_of_length (k := 1)
    (hsends 1 (by rw [htotal]; decide)) (by rw [htwo, hone])
  obtain ⟨r', rfl⟩ := List.length_eq_one_iff.mp hlength
  obtain ⟨requests, hlength, -, hthird⟩ := exists_requests_of_length (k := 0)
    (hsends 2 (by rw [htotal']; decide)) (by rw [hthree, htwo])
  obtain rfl := List.eq_nil_of_length_eq_zero hlength
  rw [hfirst, hstart] at hsecond
  rw [hsecond] at hthird
  have hpairs : r.url.queryPairs = oddPairs "3" := by
    rw [(hasked r List.mem_cons_self).pairs]
    show (listingClient "v1").standing oddFilter ++ [("offset", Numeral.decimalText 3)] = _
    decide +kernel
  have hpairs' : r'.url.queryPairs = oddPairs "4" := by
    rw [(hasked' r' List.mem_cons_self).pairs, offsetAt, htotal]
    show (listingClient "v1").standing oddFilter ++ [("offset", Numeral.decimalText 4)] = _
    decide +kernel
  rcases hrun 3 with ⟨n, outcome, hn, -, hdone⟩ | ⟨-, hmore⟩
  · rw [hdone] at hends
    obtain ⟨hvolumes, hsent⟩ := Prod.mk.inj (Except.ok.inj hends)
    obtain ⟨volumes, rfl, hcount⟩ := exists_of_map_eq_ok hvolumes
    refine ⟨volumes, _, hdone, hcount, ?_⟩
    have hrequests : (world (n + 1)).sent.map Prod.snd = [r, r'] := by
      obtain rfl | rfl | rfl : n = 0 ∨ n = 1 ∨ n = 2 := by omega
      · exact absurd (hone.symm.trans hsent) (by decide)
      · exact hsecond
      · exact hthird
    have hmap := congrArg (List.map fun r => r.url.queryPairs) hrequests
    rw [List.map_map, List.map_cons, List.map_singleton, hpairs, hpairs'] at hmap
    exact hmap
  · rw [hmore] at hends
    cases hends

/-- A peer that holds no volumes. -/
def emptyHanded : Peer Unit := fun state _ =>
  (⟨1, .answered 200 "\x7b\"results\":[]\x7d".toUTF8.toList⟩, state)

/-- A version that begins a query puts a pair of its own in front of the standing ones, and one that
begins a fragment leaves the URL with it. -/
theorem listAll_sends_marks_of_version :
    let asked (version : String) : Except Halt (List (List (String × String) × Option (List Char))) :=
      (Session.run ((listingClient version).listAll emptyHanded 1 .empty) ⟨0, [], [], ()⟩).map
        fun (_, after) => after.sent.map fun (_, r) => (r.url.queryPairs, r.url.fragment)
    Client.isWeb (listingSetup "v1?a=b").client.base ∧
      build (listingSetup "v1?a=b") = .ok (listingClient "v1?a=b") ∧
      asked "v1?a=b" = .ok [(("a", "b/volumes/1/2") :: (listingClient "v1?a=b").standing .empty,
        none)] ∧
      asked "v1#f" = .ok [((listingClient "v1#f").standing .empty,
        some "f/volumes/1/2".toList)] := by
  refine ⟨by decide, rfl, ?_, ?_⟩
  · decide +kernel
  · decide +kernel

end VolumeClient

end CloudApi
