import CloudApi.Proofs.Envelope
import CloudApi.Proofs.Pager.Readers
import CloudApi.Proofs.Url.Form

/-! Walking a list by offsets.

A server that holds a list answers with the items from the offset on, as many as it likes. A page
that holds some leads to the offset behind them or, at the end, nowhere (`Leading`), so that the
offsets grow, no page leads back, and the items gathered are those of the list, from the first
offset to the end (`run_gather`). It leads so both where it counts its items (`Counting`) and
where it keeps to the limit of the request (`Limiting`). -/
namespace CloudApi

/-- The offset that a URL asks for. -/
def Url.asked (url : Url) : Nat :=
  ((url.numericParam "offset").getD 0).toNat

namespace Url

/-- An offset that was put into a URL is asked for. -/
theorem asked_replaceParam (url : Url) {n : Nat} (h : n < 2 ^ 64) :
    (url.replaceParam "offset" (Text.Numeral.decimalText n)).asked = n := by
  unfold asked
  rw [numericParam_replaceParam, Text.Numeral.decimalText, String.toList_ofList,
    Text.Numeral.uint64?_decimal h]
  show n.toUInt64.toNat = n
  rw [Nat.toUInt64_eq, UInt64.toNat_ofNat']
  exact Nat.mod_eq_of_lt h

end Url

namespace Page
variable (url : Url) {body : Json} {vs : List Json}

/-! ### Pages of a list -/

theorem isEmpty_of_results (h : body.get? "results" = some (.array vs)) :
    (⟨url, body⟩ : Page).isEmpty = .ok (vs.length == 0) := by
  simp only [isEmpty, Envelope.resultsLength, Envelope.sliceLength, Envelope.slice, h, Except.map]

theorem items_of_results {α : Type} {decode : Json.Decoder α} {found : List α}
    (h : body.get? "results" = some (.array vs))
    (hdecode : List.Forall₂ (fun v a => decode v = .ok a) vs found) :
    (⟨url, body⟩ : Page).items decode = .ok found := by
  simp only [items, Envelope.results, Envelope.items, Envelope.slice, h, bind, Except.bind,
    Json.Decoder.items_eq_ok_iff.mpr hdecode, Envelope.explain]

theorem toNat_length (hfit : url.asked + vs.length < 2 ^ 64) :
    vs.length.toUInt64.toNat = vs.length := by
  rw [Nat.toUInt64_eq, UInt64.toNat_ofNat']
  exact Nat.mod_eq_of_lt (by omega)

theorem toNat_reached (hfit : url.asked + vs.length < 2 ^ 64) :
    ((⟨url, body⟩ : Page).offset + vs.length.toUInt64).toNat = url.asked + vs.length := by
  rw [UInt64.toNat_add, toNat_length url hfit]
  exact Nat.mod_eq_of_lt hfit

/-- If a page leads anywhere, then to its own URL with the offset behind its items. -/
theorem eq_of_next_offset {p : Page} {u : Url} (h : p.next .offset = .ok (some u)) :
    ∃ vs, p.body.get? "results" = some (.array vs) ∧ u = p.url.replaceParam "offset"
      (Text.Numeral.decimalText (p.offset + vs.length.toUInt64).toNat) := by
  change p.nextOffset = _ at h
  cases hslice : Envelope.slice p.body "results" with
  | error e =>
    simp only [nextOffset, Envelope.resultsLength, Envelope.sliceLength, hslice, Except.map, bind,
      Except.bind] at h
    cases h
  | ok vs =>
    have hresults := Envelope.slice_eq_ok_iff.mp hslice
    simp only [nextOffset, Envelope.resultsLength, Envelope.sliceLength, hslice, Except.map, bind,
      Except.bind] at h
    refine ⟨vs, hresults, ?_⟩
    grind

/-- A page with items leads to the offset behind them, unless it is the last one. -/
theorem next_offset (h : body.get? "results" = some (.array vs)) (hsome : 0 < vs.length)
    (hfit : url.asked + vs.length < 2 ^ 64) {count : Option UInt64}
    (hcount : (⟨url, body⟩ : Page).totalCount = .ok count) :
    (⟨url, body⟩ : Page).next .offset = .ok
      (if (⟨url, body⟩ : Page).endsAt ((⟨url, body⟩ : Page).offset + vs.length.toUInt64)
          vs.length.toUInt64 count then none
       else some (url.replaceParam "offset"
        (Text.Numeral.decimalText (url.asked + vs.length)))) := by
  have hlength : Envelope.resultsLength body = .ok vs.length := by
    simp only [Envelope.resultsLength, Envelope.sliceLength, Envelope.slice, h, Except.map]
  have hnonzero : vs.length.toUInt64 ≠ 0 := by
    intro hzero
    have hvalue := toNat_length url hfit
    rw [hzero, UInt64.toNat_zero] at hvalue
    omega
  show (⟨url, body⟩ : Page).nextOffset = _
  simp only [nextOffset, hlength, hcount, toNat_reached url hfit, if_neg hnonzero, bind,
    Except.bind]
  split <;> rfl

/-- Where the items are counted, the last page is the one that reaches the count. -/
theorem next_offset_of_count (h : body.get? "results" = some (.array vs))
    (hsome : 0 < vs.length) (hfit : url.asked + vs.length < 2 ^ 64) {count : UInt64}
    (hcount : (⟨url, body⟩ : Page).totalCount = .ok (some count)) :
    (⟨url, body⟩ : Page).next .offset = .ok
      (if count.toNat ≤ url.asked + vs.length then none
       else some (url.replaceParam "offset"
        (Text.Numeral.decimalText (url.asked + vs.length)))) := by
  rw [next_offset url h hsome hfit hcount]
  simp only [endsAt, decide_eq_true_eq, UInt64.le_iff_toNat_le, toNat_reached url hfit]

/-- Where they are not, it is the one that falls short of the limit. -/
theorem next_offset_of_limit (h : body.get? "results" = some (.array vs))
    (hsome : 0 < vs.length) (hfit : url.asked + vs.length < 2 ^ 64) {limit : UInt64}
    (hcount : (⟨url, body⟩ : Page).totalCount = .ok none)
    (hlimit : url.numericParam "limit" = some limit) :
    (⟨url, body⟩ : Page).next .offset = .ok
      (if vs.length < limit.toNat then none
       else some (url.replaceParam "offset"
        (Text.Numeral.decimalText (url.asked + vs.length)))) := by
  rw [next_offset url h hsome hfit hcount]
  simp only [endsAt, hlimit, decide_eq_true_eq, UInt64.lt_iff_toNat_lt, toNat_length url hfit]

end Page

namespace Pager
variable {σ α : Type}

/-! ### Servers that lead through a list -/

/-- A server leads through a list: for the URLs that are right, its pages hold the items from the
offset on, and each leads to the offset behind its items, or nowhere at the end. The cost bounds
the requests that are still to come. -/
structure Leading (server : Server σ) (held : List Json) (right : Url → Prop)
    (cost : Nat → Nat) : Prop where
  positive : ∀ start, 0 < cost start
  answers : ∀ peer url, right url → ∃ body n,
    (server peer (Server.getRequest url)).1.outcome = .ok body ∧
    body.get? "results" = some (.array ((held.drop url.asked).take n)) ∧
    n ≤ held.length - url.asked ∧ (n = 0 → held.length ≤ url.asked) ∧
    (0 < n →
      (⟨url, body⟩ : Page).next .offset = .ok none ∧ url.asked + n = held.length ∨
      ∃ u, (⟨url, body⟩ : Page).next .offset = .ok (some u) ∧ u.asked = url.asked + n ∧
        right u ∧ cost u.asked < cost url.asked)

/-- The URLs of a walk: the offsets grow, and only the last page may be empty. -/
structure Walk (held : List Json) (right : Url → Prop) (cost : Nat → Nat) (first : Url)
    (urls : List Url) : Prop where
  ne_nil : urls ≠ []
  length_le : urls.length ≤ cost first.asked
  right : ∀ u ∈ urls, right u
  asked_le : ∀ u ∈ urls, first.asked ≤ u.asked
  growing : urls.Pairwise fun u v => u.asked < v.asked
  filled : ∀ u ∈ urls.dropLast, u.asked < held.length

namespace Walk
variable {held : List Json} {right : Url → Prop} {cost : Nat → Nat} {first : Url}

theorem single (hright : right first) (hcost : 0 < cost first.asked) :
    Walk held right cost first [first] where
  ne_nil := List.cons_ne_nil _ _
  length_le := hcost
  right := List.forall_mem_singleton.mpr hright
  asked_le := List.forall_mem_singleton.mpr le_rfl
  growing := List.pairwise_singleton _ _
  filled _ hu := absurd hu List.not_mem_nil

theorem cons {next : Url} {urls : List Url} (h : Walk held right cost next urls)
    (hright : right first) (hless : first.asked < next.asked)
    (hfilled : first.asked < held.length) (hcost : cost next.asked < cost first.asked) :
    Walk held right cost first (first :: urls) where
  ne_nil := List.cons_ne_nil _ _
  length_le := Nat.succ_le_of_lt (h.length_le.trans_lt hcost)
  right := List.forall_mem_cons.mpr ⟨hright, h.right⟩
  asked_le := List.forall_mem_cons.mpr ⟨le_rfl, fun u hu => hless.le.trans (h.asked_le u hu)⟩
  growing := List.pairwise_cons.mpr ⟨fun u hu => hless.trans_le (h.asked_le u hu), h.growing⟩
  filled u hu := by
    rw [List.dropLast_cons_of_ne_nil h.ne_nil] at hu
    rcases List.mem_cons.mp hu with rfl | hu
    · exact hfilled
    · exact h.filled u hu

end Walk

/-! ### Gathering items -/

section Gather
variable {t : Transport σ} {decode : Json.Decoder α} {pager : Pager} {url : Url}
  {w after : World σ} {body : Json} (found : List α) (rounds : Nat)

theorem run_gather_of_no_pending (hnone : pager.pending = none) :
    Session.run (eachPage t (gather decode) (rounds + 1) found pager) w =
      .ok (.ok (.ok (), found), w) :=
  run_eachPage_succ _ _ _ (run_nextPage_of_no_pending t hnone w)

theorem run_gather_of_isEmpty (hurl : pager.pending = some url)
    (hget : Session.run (t.get url) w = .ok (.ok body, after))
    (hempty : (⟨url, body⟩ : Page).isEmpty = .ok true) :
    Session.run (eachPage t (gather decode) (rounds + 1) found pager) w =
      .ok (.ok (.ok (), found), after) := by
  have hturn : pager.turn url (.ok body) =
      (.ok none, ⟨pager.style, none, .exhausted, url :: pager.visited⟩) := by
    simp only [turn, Except.bind, read_eq_nothing_iff.mpr hempty]
  have hcall := run_nextPage_of_pending t hurl hget
  rw [hturn] at hcall
  exact run_eachPage_succ _ _ _ hcall

theorem run_gather_of_page (hurl : pager.pending = some url)
    (hget : Session.run (t.get url) w = .ok (.ok body, after))
    (hnonempty : (⟨url, body⟩ : Page).isEmpty = .ok false)
    {next : Option Url} (hnext : (⟨url, body⟩ : Page).next pager.style = .ok next)
    (hnew : ∀ u, next = some u → u ∉ url :: pager.visited) {more : List α}
    (hitems : (⟨url, body⟩ : Page).items decode = .ok more) :
    Session.run (eachPage t (gather decode) (rounds + 1) found pager) w =
      Session.run (eachPage t (gather decode) rounds (found ++ more)
        ⟨pager.style, next, .yieldedPage, url :: pager.visited⟩) after := by
  have hread : read pager.style (url :: pager.visited) ⟨url, body⟩ =
      .ok (some (⟨url, body⟩, next)) :=
    read_eq_page_iff.mpr ⟨rfl, hnonempty, hnext, hnew⟩
  have hturn : pager.turn url (.ok body) =
      (.ok (some ⟨url, body⟩), ⟨pager.style, next, .yieldedPage, url :: pager.visited⟩) := by
    simp only [turn, Except.bind, hread]
  have hgather : gather decode found ⟨url, body⟩ = (.ok true, found ++ more) := by
    simp only [gather, hitems]
  have hcall := run_nextPage_of_pending t hurl hget
  rw [hturn] at hcall
  rw [run_eachPage_succ _ _ _ hcall]
  simp only [hgather]

end Gather

/-- **The items gathered are those of the list, from the offset to the end.** -/
theorem run_gather {server : Server σ} {held : List Json} {right : Url → Prop}
    {cost : Nat → Nat} (hleading : Leading server held right cost) {decode : Json.Decoder α}
    {items : List α} (hdecode : List.Forall₂ (fun v a => decode v = .ok a) held items)
    (bound : Nat) {url : Url} (pager : Pager) (w : World σ) (found : List α)
    (hbound : cost url.asked ≤ bound) (hright : right url) (hstyle : pager.style = .offset)
    (hurl : pager.pending = some url) (hvisited : ∀ u ∈ pager.visited, u.asked < url.asked)
    (halarms : w.alarms = []) :
    ∃ urls after, Walk held right cost url urls ∧
      after.sent.map Prod.snd = w.sent.map Prod.snd ++ urls.map Server.getRequest ∧
      ∀ rounds, cost url.asked < rounds →
        Session.run (eachPage server.transport (gather decode) rounds found pager) w =
          .ok (.ok (.ok (), found ++ items.drop url.asked), after) := by
  induction bound generalizing url pager w found with
  | zero => exact absurd (hleading.positive url.asked) (by omega)
  | succ bound ih =>
    obtain ⟨body, n, hanswer, hresults, hn, hend, hnext⟩ := hleading.answers w.peer url hright
    have hfetch : Session.run (server.transport.get url) w =
        .ok (.ok body, (server.fetch url w).2) := by
      rw [Server.run_get, ← hanswer, ← Server.fetch_of_no_alarm server url w halarms]
    have hsent : (server.fetch url w).2.sent.map Prod.snd =
        w.sent.map Prod.snd ++ [Server.getRequest url] := by
      rw [Server.fetch_sent, List.map_append]
      rfl
    have hsingle : Walk held right cost url [url] := .single hright (hleading.positive _)
    have hcount : items.length = held.length := hdecode.length_eq.symm
    have hempty := Page.isEmpty_of_results url hresults
    rw [List.length_take, List.length_drop, Nat.min_eq_left hn] at hempty
    rcases Nat.eq_zero_or_pos n with rfl | hpos
    · -- The page is empty: the list is over.
      refine ⟨[url], _, hsingle, hsent, fun rounds hrounds => ?_⟩
      obtain ⟨rounds, rfl⟩ : ∃ r, rounds = r + 1 := ⟨rounds - 1, by omega⟩
      rw [run_gather_of_isEmpty found rounds hurl hfetch hempty,
        List.drop_eq_nil_of_le (hcount.trans_le (hend rfl)), List.append_nil]
    have hnonempty : (⟨url, body⟩ : Page).isEmpty = .ok false := by
      rw [hempty, beq_false_of_ne hpos.ne']
    have hitems : (⟨url, body⟩ : Page).items decode = .ok ((items.drop url.asked).take n) :=
      Page.items_of_results url hresults
        (List.forall₂_take n (List.forall₂_drop url.asked hdecode))
    rcases hnext hpos with ⟨hlast, hreached⟩ | ⟨u, hmore, hasked, hu, hcost⟩
    · -- The page leads nowhere: it holds all that is left.
      have hpositive := hleading.positive url.asked
      have hall : (items.drop url.asked).take n = items.drop url.asked :=
        List.take_of_length_le (by rw [List.length_drop]; omega)
      refine ⟨[url], _, hsingle, hsent, fun rounds hrounds => ?_⟩
      obtain ⟨rounds, rfl⟩ : ∃ r, rounds = r + 1 + 1 := ⟨rounds - 2, by omega⟩
      rw [run_gather_of_page found (rounds + 1) hurl hfetch hnonempty (hstyle ▸ hlast)
        (fun u hu => absurd hu.symm (Option.some_ne_none u)) hitems,
        run_gather_of_no_pending _ rounds rfl, hall]
    · -- The page leads on: the next one begins behind it, and the URL is a new one.
      have hbefore : ∀ v ∈ url :: pager.visited, v.asked < u.asked := by
        refine List.forall_mem_cons.mpr ⟨by omega, fun v hv => ?_⟩
        exact (hvisited v hv).trans (by omega)
      have hnew : ∀ v, some u = some v → v ∉ url :: pager.visited := by
        rintro _ ⟨⟩ hback
        exact lt_irrefl _ (hbefore u hback)
      obtain ⟨urls, after, hwalk, hlog, hrun⟩ := ih
        ⟨pager.style, some u, .yieldedPage, url :: pager.visited⟩ (server.fetch url w).2
        (found ++ (items.drop url.asked).take n)
        (by omega) hu hstyle rfl hbefore (by rw [Server.fetch_alarms, halarms])
      refine ⟨url :: urls, after, hwalk.cons hright (by omega) (by omega) hcost, ?_,
        fun rounds hrounds => ?_⟩
      · rw [hlog, hsent, List.append_assoc]
        rfl
      · obtain ⟨rounds, rfl⟩ : ∃ r, rounds = r + 1 := ⟨rounds - 1, by omega⟩
        rw [run_gather_of_page found rounds hurl hfetch hnonempty (hstyle ▸ hmore) hnew hitems,
          hrun rounds (by omega), List.append_assoc, hasked, ← List.drop_drop,
          List.take_append_drop]

/-! ### Servers that count and servers that keep to a limit -/

/-- A server holds a list and tells how long it is. It answers with items from the offset on, as
many as it likes, but at least one while there are some. -/
def Counting (server : Server σ) (held : List Json) : Prop :=
  ∀ peer url, ∃ body count n,
    (server peer (Server.getRequest url)).1.outcome = .ok body ∧
    body.get? "count" = some (.number (.natural count)) ∧ count.toNat = held.length ∧
    body.get? "results" = some (.array ((held.drop url.asked).take n)) ∧
    (url.asked < held.length → 1 ≤ n ∧ n ≤ held.length - url.asked)

/-- A server holds a list and does not tell how long it is. It answers with as many items from
the offset on as the limit asks for, or with those that are left. -/
def Limiting (server : Server σ) (held : List Json) : Prop :=
  ∀ peer url limit, url.numericParam "limit" = some limit → ∃ body,
    (server peer (Server.getRequest url)).1.outcome = .ok body ∧
    (body.get? "count" = none ∨ body.get? "count" = some .null) ∧
    body.get? "results" = some (.array ((held.drop url.asked).take limit.toNat))

theorem Counting.leading {server : Server σ} {held : List Json} (h : Counting server held)
    (first : Url) :
    Leading server held (fun u => first.asked < held.length → u.asked < held.length)
      (fun start => max 1 (held.length - start)) where
  positive start := lt_max_of_lt_left Nat.one_pos
  answers peer url hright := by
    obtain ⟨body, count, n, hanswer, hcount, hheld, hresults, hn⟩ := h peer url
    have hfit : held.length < 2 ^ 64 := hheld ▸ count.toNat_lt
    have htotal : (⟨url, body⟩ : Page).totalCount = .ok (some count) := by
      simp only [Page.totalCount, Envelope.count, hcount]
    have hlength : ((held.drop url.asked).take n).length = min n (held.length - url.asked) := by
      rw [List.length_take, List.length_drop]
    refine ⟨body, min n (held.length - url.asked), hanswer, ?_, Nat.min_le_right _ _, by omega,
      fun hpos => ?_⟩
    · rw [hresults, ← List.length_drop, ← List.take_eq_take_min]
    have hnext := Page.next_offset_of_count url hresults
      (by omega) (by omega) htotal
    rw [hlength] at hnext
    by_cases hend : held.length ≤ url.asked + min n (held.length - url.asked)
    · exact .inl ⟨by rw [hnext, if_pos (by omega)], by omega⟩
    · refine .inr ⟨_, by rw [hnext, if_neg (by omega)], ?_⟩
      rw [Url.asked_replaceParam url (by omega)]
      exact ⟨rfl, fun _ => by omega, by omega⟩

theorem Limiting.leading {server : Server σ} {held : List Json} (h : Limiting server held)
    (hfit : held.length < 2 ^ 64) {limit : UInt64} (hlimit : 0 < limit.toNat) :
    Leading server held (fun u => u.numericParam "limit" = some limit)
      (fun start => (held.length - start) / limit.toNat + 1) where
  positive start := Nat.succ_pos _
  answers peer url hright := by
    obtain ⟨body, hanswer, hcount, hresults⟩ := h peer url limit hright
    have htotal : (⟨url, body⟩ : Page).totalCount = .ok none := by
      rcases hcount with hcount | hcount <;> simp only [Page.totalCount, Envelope.count, hcount]
    have hlength : ((held.drop url.asked).take limit.toNat).length =
        min limit.toNat (held.length - url.asked) := by
      rw [List.length_take, List.length_drop]
    refine ⟨body, min limit.toNat (held.length - url.asked), hanswer, ?_, Nat.min_le_right _ _,
      by omega, fun hpos => ?_⟩
    · rw [hresults, ← List.length_drop, ← List.take_eq_take_min]
    have hnext := Page.next_offset_of_limit url hresults
      (by omega) (by omega) htotal hright
    rw [hlength] at hnext
    by_cases hend : min limit.toNat (held.length - url.asked) < limit.toNat
    · exact .inl ⟨by rw [hnext, if_pos hend], by omega⟩
    · have hfull : min limit.toNat (held.length - url.asked) = limit.toNat := by omega
      refine .inr ⟨_, by rw [hnext, if_neg hend], ?_⟩
      rw [hfull, Url.asked_replaceParam url (by omega)]
      refine ⟨rfl, ?_, ?_⟩
      · rw [Url.numericParam_replaceParam_of_ne url (by decide), hright]
      · have hless : limit.toNat ≤ held.length - url.asked := by omega
        rw [← Nat.sub_sub, Nat.div_eq_sub_div hlimit hless]
        exact Nat.lt_succ_self _

/-- A run that gathers the items of a list from an offset on, with the requests it makes. -/
def Gathers (server : Server σ) (decode : Json.Decoder α) (first : Url) (w : World σ) (cost : Nat)
    (found : List α) (urls : List Url) : Prop :=
  ∃ after, after.sent.map Prod.snd = w.sent.map Prod.snd ++ urls.map Server.getRequest ∧
    ∀ rounds, cost < rounds →
      Session.run (allItems server.transport decode rounds (start .offset first)) w =
        .ok (.ok found, after)

theorem Leading.gathers {server : Server σ} {held : List Json} {right : Url → Prop}
    {cost : Nat → Nat} (h : Leading server held right cost) {decode : Json.Decoder α}
    {items : List α} (hdecode : List.Forall₂ (fun v a => decode v = .ok a) held items)
    {first : Url} (hright : right first) {w : World σ} (halarms : w.alarms = []) :
    ∃ urls, Walk held right cost first urls ∧
      Gathers server decode first w (cost first.asked) (items.drop first.asked) urls := by
  obtain ⟨urls, after, hwalk, hlog, hrun⟩ := run_gather h hdecode (cost first.asked)
    (start .offset first) w [] le_rfl hright rfl rfl
    (fun u hu => absurd hu List.not_mem_nil) halarms
  exact ⟨urls, hwalk, after, hlog, fun rounds hrounds => run_allItems (hrun rounds hrounds)⟩

theorem Walk.nodup {held : List Json} {right : Url → Prop} {cost : Nat → Nat} {first : Url}
    {urls : List Url} (h : Walk held right cost first urls) : urls.Nodup :=
  h.growing.imp fun hless heq => absurd (congrArg Url.asked heq) hless.ne

/-- **Walking by offsets loses nothing and repeats nothing.** Where the server counts, no page is
empty unless the walk begins behind the list; where it keeps to a limit, only the last one may
be. -/
theorem allItems_offset {server : Server σ} {held : List Json} {decode : Json.Decoder α}
    {items : List α} (hdecode : List.Forall₂ (fun v a => decode v = .ok a) held items)
    (first : Url) (w : World σ) (halarms : w.alarms = []) :
    (Counting server held → ∃ urls,
      Gathers server decode first w (max 1 (held.length - first.asked)) (items.drop first.asked)
        urls ∧
      urls.length ≤ max 1 (held.length - first.asked) ∧ urls.Nodup ∧
      (first.asked < held.length → ∀ u ∈ urls, u.asked < held.length)) ∧
    ∀ limit : UInt64, first.numericParam "limit" = some limit → 0 < limit.toNat →
      held.length < 2 ^ 64 → Limiting server held → ∃ urls,
      Gathers server decode first w ((held.length - first.asked) / limit.toNat + 1)
        (items.drop first.asked) urls ∧
      urls.length ≤ (held.length - first.asked) / limit.toNat + 1 ∧ urls.Nodup ∧
      ∀ u ∈ urls.dropLast, u.asked < held.length := by
  constructor
  · intro hcounting
    obtain ⟨urls, hwalk, hgathers⟩ := (hcounting.leading first).gathers hdecode id halarms
    exact ⟨urls, hgathers, hwalk.length_le, hwalk.nodup, fun h u hu => hwalk.right u hu h⟩
  · intro limit hlimit hpos hfit hlimiting
    obtain ⟨urls, hwalk, hgathers⟩ := (hlimiting.leading hfit hpos).gathers hdecode hlimit halarms
    exact ⟨urls, hgathers, hwalk.length_le, hwalk.nodup, hwalk.filled⟩

/-! ### Three numbers -/

def threeNumbers : List Json :=
  [.nat 7, .nat 8, .nat 9]

/-- Two numbers a page, and how many there are. -/
def countedNumbers : Server Unit := fun peer request =>
  (⟨0, .ok (.object [("count", .nat 3),
    ("results", .array ((threeNumbers.drop request.url.asked).take 2))])⟩, peer)

/-- As many numbers a page as are asked for. -/
def limitedNumbers : Server Unit := fun peer request =>
  (⟨0, .ok (.object [("results", .array ((threeNumbers.drop request.url.asked).take
    ((request.url.numericParam "limit").getD 0).toNat))])⟩, peer)

def numbersUrl : Url :=
  { serviceUrl ["v1", "numbers"] with query := some "limit=1&offset=1".toList }

theorem countedNumbers_counting : Counting countedNumbers threeNumbers := by
  intro peer url
  refine ⟨_, 3, min 2 (3 - url.asked), rfl, rfl, rfl, ?_, fun h => ?_⟩
  · have hlength : (threeNumbers.drop url.asked).length = 3 - url.asked := List.length_drop
    rw [← hlength, ← List.take_eq_take_min]
    rfl
  · have hlength : threeNumbers.length = 3 := rfl
    omega

theorem limitedNumbers_limiting : Limiting limitedNumbers threeNumbers := by
  intro peer url limit hlimit
  refine ⟨_, rfl, .inl rfl, ?_⟩
  show some (Json.array ((threeNumbers.drop url.asked).take
    ((url.numericParam "limit").getD 0).toNat)) = _
  rw [hlimit]
  rfl

/-- From the second of three numbers on, both servers give the second and the third. -/
theorem allItems_offset_of_three_numbers :
    let w : World Unit := ⟨0, [], [], ()⟩
    (∃ urls, Gathers countedNumbers Json.Decoder.uint64 numbersUrl w 2 [8, 9] urls) ∧
    ∃ urls, Gathers limitedNumbers Json.Decoder.uint64 numbersUrl w 3 [8, 9] urls := by
  intro w
  have hdecode : List.Forall₂ (fun v a => Json.Decoder.uint64 v = .ok a) threeNumbers [7, 8, 9] :=
    .cons rfl (.cons rfl (.cons rfl .nil))
  have hasked : numbersUrl.asked = 1 := by decide +kernel
  have hlimit : numbersUrl.numericParam "limit" = some 1 := by decide +kernel
  obtain ⟨urls, hgathers, -⟩ :=
    (allItems_offset hdecode numbersUrl w rfl).1 countedNumbers_counting
  obtain ⟨more, hlimited, -⟩ := (allItems_offset hdecode numbersUrl w rfl).2 1 hlimit
    (by decide) (by decide) limitedNumbers_limiting
  rw [hasked] at hgathers hlimited
  exact ⟨⟨urls, hgathers⟩, more, hlimited⟩

end Pager

end CloudApi
