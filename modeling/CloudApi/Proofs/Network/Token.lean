import CloudApi.Proofs.Network.Stream
import CloudApi.Proofs.Pager.Linked
import CloudApi.Proofs.Url.Origin
import CloudApi.Proofs.Volume.Filters

/-! Where the token of a client goes.

Every request of a list carries the token. The URLs of a list stay at the origin of its first page
until a page of that origin leads away by a link that names another one (`origin_pending`); the
first page is at the origin of the base URL unless the version of the service names another one
(`token_stays_at_origin`). -/
namespace CloudApi

theorem Client.origin_withoutCredentials (u : Url) : (withoutCredentials u).origin = u.origin := by
  unfold withoutCredentials
  split
  · cases hauthority : u.authority <;> simp [Url.origin, hauthority]
  · rfl

/-- Every request of a client with a token carries it. -/
theorem Client.token_mem_headers {c : Client} {token : String} (h : c.token = some token)
    (method : Method) (url : Url) (body : Option Json) :
    ("authorization", authorization token) ∈ (c.request method url body).headers := by
  simp [request, tokenHeaders, h]

/-- A page whose next link names another origin than its own. -/
inductive Page.LeadsAway (p : Page) : Prop where
  | intro {links : List Envelope.Link} {href : String} {u : Url}
    (lists : Envelope.links p.body = .ok links) (next : Envelope.nextHref links = some href)
    (names : Url.namesOrigin href.toList) (joins : p.url.join href = .ok u)
    (away : u.origin ≠ p.url.origin)

/-- A page of the web leads to its own origin, or away by the origin that its link names. -/
theorem Page.origin_of_next {p : Page} {u : Url} (hweb : Client.isWeb p.url)
    (h : p.next .linked = .ok (some u)) : u.origin = p.url.origin ∨ p.LeadsAway := by
  by_cases hstays : u.origin = p.url.origin
  · exact .inl hstays
  obtain ⟨href, ⟨links, hlinks, hhref⟩, hjoin⟩ := Page.next_linked_iff.mp h
  refine .inr ⟨hlinks, hhref, ?_, hjoin, hstays⟩
  by_contra hnames
  exact hstays (Url.origin_join (Client.special_of_isWeb hweb).2 (Bool.eq_false_iff.mpr hnames) hjoin)

namespace NetworkClient
variable {σ : Type} {c : NetworkClient} {peer : Peer σ}

/-- A call before a number of them gave a page of an origin that leads away from it. -/
def LedAway (result : Nat → Except Error (Option Page)) (home : Url.Origin) (n : Nat) : Prop :=
  ∃ i < n, ∃ page, result i = .ok (some page) ∧ page.url.origin = home ∧ page.LeadsAway

theorem LedAway.succ {result : Nat → Except Error (Option Page)} {home : Url.Origin} {n : Nat}
    (h : LedAway result home n) : LedAway result home (n + 1) := by
  obtain ⟨i, hi, hpage⟩ := h
  exact ⟨i, by omega, hpage⟩

/-- **What a list fetches is at the origin of its first page** until a page leads away. -/
theorem origin_pending {result : Nat → Except Error (Option Page)} {pager : Nat → Pager}
    {world : Nat → World σ} (hcalled : Pager.Called (c.transport peer) result pager world)
    {home : Url} (hfirst : pager 0 = .start .linked home) {n : Nat} {u : Url}
    (h : (pager n).pending = some u) : u.origin = home.origin ∨ LedAway result home.origin n := by
  induction n generalizing u with
  | zero =>
    rw [hfirst] at h
    obtain rfl := Option.some.inj h
    exact .inl rfl
  | succ n ih =>
    obtain ⟨page, hpage, hurl, hnext⟩ := hcalled.pending_succ h
    rw [hcalled.style_eq, hfirst] at hnext
    rcases ih hurl with hhome | haway
    · have hweb : Client.isWeb page.url := Client.isWeb_of_obstacle
        (ResourceClient.obstacle_of_run_get (hcalled.get_of_page hpage).2)
      rcases Page.origin_of_next hweb hnext with hsame | haway
      · exact .inl (hsame.trans hhome)
      · exact .inr ⟨n, n.lt_succ_self, page, hpage, hhome, haway⟩
    · exact .inr haway.succ

/-- **The token stays at the origin of the base URL** as long as nothing names another one. However
the networks of a filter are read, it is by calls of one pager, whose requests all carry the token.
Each of them goes to the origin of the URL of all networks, unless a page that was fetched from
there before has a next link that names another origin; and that origin is the one of the base URL,
unless the version of the service makes the path of the networks name another one. -/
theorem token_stays_at_origin {s : ResourceSetup} {token : String} (hbuild : build s = .ok c)
    (hweb : Client.isWeb s.client.base) (htoken : s.client.token = some token) (peer : Peer σ)
    (f : NetworkFilter) (w : World σ) :
    (∃ e, c.endpoint.collection c.client.base = .error e ∧ c.list f = .error e ∧
      c.stream f = .error e ∧
      ∀ rounds, Session.run (listAll c peer rounds f) w = .ok (.error e, w)) ∨
    ∃ home result pager world, c.endpoint.collection c.client.base = .ok home ∧
      (Url.namesOrigin (c.endpoint.reference []).toList = false →
        home.origin = s.client.base.origin) ∧
      c.list f = .ok (pager 0) ∧ c.stream f = .ok ⟨[], pager 0⟩ ∧ world 0 = w ∧
      Pager.Called (c.transport peer) result pager world ∧
      (∀ rounds outcome after, Session.run (listAll c peer rounds f) w = .ok (outcome, after) →
        ∃ n, after = world n) ∧
      (∀ entries last after, Polls c peer ⟨[], pager 0⟩ w entries last after →
        ∃ n, after = world n) ∧
      ∀ n, ∃ requests,
        (world (n + 1)).sent.map Prod.snd = (world n).sent.map Prod.snd ++ requests ∧
        ∀ r ∈ requests, ("authorization", Client.authorization token) ∈ r.headers ∧
          (r.url.origin = home.origin ∨ LedAway result home.origin n) := by
  have hc := ResourceSetup.eq_of_build hbuild
  cases hhome : c.endpoint.collection c.client.base with
  | error e =>
    have hlist : c.list f = .error e := by
      simp only [list, ResourceClient.list, ResourceClient.listUrl, hhome, bind, Except.bind,
        Except.map]
    refine .inl ⟨e, rfl, hlist, ?_, fun rounds => c.run_listAll_of_error peer hlist rounds w⟩
    rw [stream, hlist]
    rfl
  | ok home =>
    obtain ⟨result, pager, world, hlist, hstream, hfirst, rfl, hcalled⟩ :=
      exists_calls c peer hhome f w
    refine .inr ⟨home, result, pager, world, rfl, fun hversion => ?origin, hlist, hstream, rfl,
      hcalled, fun rounds outcome after hrun => ?all, fun entries last after hpolls => ?polls,
      fun n => ?requests⟩
    case origin =>
      have hbase : c.client.base = s.client.base := by rw [hc]
      rw [hbase] at hhome
      unfold Endpoint.collection Endpoint.resource Endpoint.resolve at hhome
      split at hhome
      · next hjoin =>
        obtain rfl := Except.ok.inj hhome
        exact Url.origin_join (Client.special_of_isWeb hweb).2 hversion hjoin
      · cases hhome
    case all =>
      obtain ⟨_, _, n, -, -, rfl⟩ := (run_listAll_iff hcalled hlist).mp ⟨rounds, hrun⟩
      exact ⟨n, rfl⟩
    case polls =>
      obtain ⟨_, n, -, -, rfl⟩ := (polls_iff hcalled).mp hpolls
      exact ⟨n, rfl⟩
    case requests =>
      have htoken' : c.client.token = some token := by rw [hc, ← htoken]
      have hstyle : c.style = .linked := by rw [hc]
      rw [hstyle] at hfirst
      rcases ResourceClient.sent_of_call hcalled n with hsame | ⟨u, copies, hurl, hsent⟩
      · exact ⟨[], by rw [hsame, List.append_nil], fun r hr => absurd hr List.not_mem_nil⟩
      · refine ⟨_, hsent, fun r hr => ?_⟩
        rw [List.eq_of_mem_replicate hr]
        refine ⟨Client.token_mem_headers htoken' .get u none, ?_⟩
        have horigin := origin_pending hcalled hfirst hurl
        rw [Url.origin_appendPairs, ← Client.origin_withoutCredentials u] at horigin
        exact horigin

/-! ### A page that leads to another host -/

def keyedSetup (version : String) : ResourceSetup :=
  ⟨⟨serviceUrl [""], .standard, some "key", "agent"⟩, version, 1, 2, 50, .standard⟩

def keyedClient (version : String) : NetworkClient :=
  ⟨⟨serviceUrl [""], .standard, some "key", "agent"⟩, ⟨version, .networks, 1, 2⟩, .linked,
    Network.record.decode, 50, .standard⟩

/-- The links of the pages name no origin, and the token stays where it is. -/
theorem token_stays_at_origin_of_patchy :
    build (keyedSetup "v1") = .ok (keyedClient "v1") ∧ Client.isWeb (keyedSetup "v1").client.base ∧
      ∃ home result, ∃ world : Nat → World Nat, ∃ n outcome,
        (keyedClient "v1").endpoint.collection (serviceUrl [""]) = .ok home ∧
        home.origin = (serviceUrl [""]).origin ∧ world 0 = ⟨0, [], [], 0⟩ ∧
        Session.run (listAll (keyedClient "v1") patchy 2 .empty) (world 0) =
          .ok (outcome, world n) ∧
        ∀ n, ∃ requests,
          (world (n + 1)).sent.map Prod.snd = (world n).sent.map Prod.snd ++ requests ∧
          ∀ r ∈ requests, ("authorization", "APIKey key") ∈ r.headers ∧
            (r.url.origin = (serviceUrl [""]).origin ∨
              LedAway result (serviceUrl [""]).origin n) := by
  have hbuild : build (keyedSetup "v1") = .ok (keyedClient "v1") := rfl
  refine ⟨hbuild, by decide, ?_⟩
  rcases token_stays_at_origin hbuild (by decide) rfl patchy .empty ⟨0, [], [], 0⟩ with
    ⟨e, hnone, -⟩ | ⟨home, result, pager, world, hhome, horigin, -, -, hworld, -, hall, -, hsent⟩
  · have hfound : ((keyedClient "v1").endpoint.collection
        (keyedClient "v1").client.base).isOk = true := by decide +kernel
    rw [hnone] at hfound
    cases hfound
  · have hstays := horigin (by decide +kernel)
    have hends : (Session.run (listAll (keyedClient "v1") patchy 2 .empty) ⟨0, [], [], 0⟩).isOk =
        true := by decide +kernel
    cases hrun : Session.run (listAll (keyedClient "v1") patchy 2 .empty) ⟨0, [], [], 0⟩ with
    | error why =>
      rw [hrun] at hends
      cases hends
    | ok ended =>
      obtain ⟨outcome, after⟩ := ended
      obtain ⟨n, rfl⟩ := hall 2 outcome after hrun
      rw [hstays] at hsent
      exact ⟨home, result, world, n, outcome, hhome, hstays, hworld, by rw [hworld, hrun], hsent⟩

/-- A service whose first page leads to another host. -/
def straying : Peer Nat :=
  .inOrder fun n => ⟨1, .answered 200 (String.toUTF8 (match n with
    | 0 => "\x7b\"results\":[\x7b\"id\":\"726ecfcc-7fd0-4e30-a86b-7ed1aa6d8a4b\",\"name\":\"a\"\x7d]," ++
      "\"links\":[\x7b\"rel\":\"next\",\"href\":\"https://other.example.com/p2\"\x7d]\x7d"
    | _ => "\x7b\"results\":[]\x7d")).toList⟩

/-- An absolute link is followed as it is and takes the token with it, and so does a version that
names a host. -/
theorem token_leaves_origin :
    let sent (version : String) := (Session.run (listAll (keyedClient version) straying 2 .empty)
      ⟨0, [], [], 0⟩).map fun (_, after) => after.sent.map fun (_, r) =>
        (r.url.origin.host.map Url.Host.chars, r.headers.lookup "authorization")
    build (keyedSetup "v1") = .ok (keyedClient "v1") ∧
      sent "v1" = .ok [(some "api.example.com".toList, some "APIKey key"),
        (some "other.example.com".toList, some "APIKey key")] ∧
      sent "//third.example.com/v1" = .ok [(some "third.example.com".toList, some "APIKey key"),
        (some "other.example.com".toList, some "APIKey key")] := by
  refine ⟨rfl, ?_, ?_⟩
  · decide +kernel
  · decide +kernel

end NetworkClient

end CloudApi
