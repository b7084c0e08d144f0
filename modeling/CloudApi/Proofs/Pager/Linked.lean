import CloudApi.Proofs.Pager.Readers
import CloudApi.Proofs.Url.Reference

/-! Pages that link to each other.

A pager knows the pages it has fetched by their URLs, fragments and all. A request does not carry
the fragment, so that one page can be asked for again under another fragment, and only so
(`refetched_by_fragment_only`): while no link has a fragment, no request is made twice. A page that
is fetched again as it was leads back and is not given again. -/
namespace CloudApi

namespace Page

/-- What the first next link of a page refers to. -/
def LinksTo (p : Page) (href : String) : Prop :=
  ∃ links, Envelope.links p.body = .ok links ∧ Envelope.nextHref links = some href

theorem next_linked_iff {p : Page} {u : Url} :
    p.next .linked = .ok (some u) ↔ ∃ href, p.LinksTo href ∧ p.url.join href = .ok u := by
  have hnext : p.next .linked = p.nextLinked := rfl
  rw [hnext, nextLinked]
  constructor
  · intro h
    rcases hlinks : Envelope.links p.body with e | links
    · rw [hlinks] at h
      cases h
    simp only [hlinks, bind, Except.bind] at h
    split at h
    · cases h
    next href hhref =>
    split at h
    · next hjoin =>
      obtain rfl := Option.some.inj (Except.ok.inj h)
      exact ⟨href, ⟨links, hlinks, hhref⟩, hjoin⟩
    · cases h
  · rintro ⟨href, ⟨links, hlinks, hhref⟩, hjoin⟩
    simp only [hlinks, bind, Except.bind, hhref, hjoin]

/-- The fragment of its URL does not matter to where a page leads. -/
theorem next_linked_congr {p q : Page} (hbody : p.body = q.body)
    (hurl : p.url.withoutFragment = q.url.withoutFragment) :
    p.next .linked = q.next .linked := by
  show p.nextLinked = q.nextLinked
  unfold nextLinked
  rw [hbody]
  simp only [Url.join_congr hurl]

end Page

namespace Pager
variable {σ : Type}

section Run
variable {t : Transport σ} {count : Nat} {result : Nat → Except Error (Option Page)}
  {pager : Nat → Pager} {world : Nat → World σ}
  (hcalled : CalledTimes t count result pager world)

include hcalled in
/-- What is fetched by one of the calls was led to by pages, one for each call before. -/
theorem CalledTimes.page_of_pending {n : Nat} (hn : n ≤ count) {u : Url}
    (hu : (pager n).pending = some u) {i : Nat} (hi : i < n) :
    ∃ page, result i = .ok (some page) ∧ (pager i).pending = some page.url ∧
      page.next (pager i).style = .ok (pager (i + 1)).pending := by
  induction n generalizing u with
  | zero => exact absurd hi (Nat.not_lt_zero i)
  | succ n ih =>
    obtain ⟨page, hpage, hurl, hleads⟩ := (turned_of_run (hcalled n hn)).leads_of_pending hu
    rcases Nat.lt_succ_iff_lt_or_eq.mp hi with hlt | rfl
    · exact ih (by omega) hurl hlt
    · exact ⟨page, hpage, hurl, hleads.trans (congrArg _ hu.symm)⟩

include hcalled in
theorem CalledTimes.exists_pending {n : Nat} (hn : n ≤ count) {u : Url}
    (hu : (pager n).pending = some u) {i : Nat} (hi : i ≤ n) : ∃ v, (pager i).pending = some v := by
  rcases Nat.eq_or_lt_of_le hi with rfl | hlt
  · exact ⟨u, hu⟩
  · obtain ⟨page, -, hpage, -⟩ := hcalled.page_of_pending hn hu hlt
    exact ⟨page.url, hpage⟩

variable {style : PageStyle} {first : Url} (hstart : pager 0 = start style first)

include hcalled hstart in
/-- No URL is fetched twice. -/
theorem CalledTimes.pending_ne {i j : Nat} (hij : i < j) (hj : j ≤ count) {u v : Url}
    (hu : (pager i).pending = some u) (hv : (pager j).pending = some v) : u ≠ v := by
  have hfirst := hcalled.sound hstart (hij.le.trans hj)
  have hsecond := hcalled.sound hstart hj
  rw [hfirst.pending_eq] at hu
  rw [hsecond.pending_eq] at hv
  rintro rfl
  exact hsecond.fresh u hv (mem_fetched.mpr ⟨i, hij, hu⟩)

include hcalled in
/-- **Without fragments in the links there are none in what is fetched.** -/
theorem CalledTimes.fragment_pending (hstart : pager 0 = start .linked first)
    (hfirst : first.fragment = none)
    (hlinks : ∀ n < count, ∀ page href, result n = .ok (some page) → page.LinksTo href →
      '#' ∉ href.toList) {n : Nat} (hn : n ≤ count) {u : Url} (hu : (pager n).pending = some u) :
    u.fragment = none := by
  cases n with
  | zero =>
    rw [hstart] at hu
    exact Option.some.inj hu ▸ hfirst
  | succ n =>
    obtain ⟨page, hpage, -, hleads⟩ := (turned_of_run (hcalled n hn)).leads_of_pending hu
    rw [(hcalled.sound hstart (Nat.le_of_lt hn)).style_eq] at hleads
    obtain ⟨href, hlink, hjoin⟩ := Page.next_linked_iff.mp hleads
    exact Url.fragment_join (hlinks n hn page href hpage hlink) hjoin

include hcalled in
/-- **A page that is fetched again with the same body leads back.** -/
theorem CalledTimes.leads_back (hstart : pager 0 = start .linked first) {i j : Nat} (hij : i < j)
    (hj : j < count) {u v : Url} (hu : (pager i).pending = some u) (hv : (pager j).pending = some v)
    (hsame : u.withoutFragment = v.withoutFragment)
    (hsteady : ∀ fetched fetched' after after',
      Session.run (t.get u) (world i) = .ok (fetched, after) →
      Session.run (t.get v) (world j) = .ok (fetched', after') → fetched = fetched') :
    ∃ body next, next ∈ fetched pager (j + 1) ∧
      result j = .error (leadsBack ⟨v, body⟩ next) ∧ (pager (j + 1)).pending = none := by
  have hstyle {n : Nat} (hn : n ≤ count) := (hcalled.sound hstart hn).style_eq
  obtain ⟨page, hpage, hurl, hleads⟩ := hcalled.page_of_pending hj.le hv hij
  obtain rfl := Option.some.inj (hurl.symm.trans hu)
  -- what the page leads to was fetched, up to the call in question
  obtain ⟨next, hnext⟩ := hcalled.exists_pending hj.le hv hij
  have hfetched : next ∈ fetched pager (j + 1) :=
    mem_fetched.mpr ⟨i + 1, by omega,
      (hcalled.sound hstart (hij.trans hj)).pending_eq.symm.trans hnext⟩
  have hturned := turned_of_run (hcalled i (hij.trans hj))
  rw [hpage] at hturned
  cases hturned with
  | page _ get full _ =>
    rcases run_nextPage_cases (hcalled j hj) with ⟨hnone, -⟩ | ⟨_, body, hpending, hget, hturn⟩
    · cases hnone.symm.trans hv
    obtain rfl := Option.some.inj (hv.symm.trans hpending)
    obtain rfl := hsteady _ _ _ _ get hget
    have hvisited : next ∈ v :: (pager j).visited := by
      have hsound := hcalled.sound hstart hj.le
      rw [fetched_succ, ← hsound.pending_eq, hv] at hfetched
      exact hsound.mem_visited.mpr hfetched
    have hleads : (⟨v, page.body⟩ : Page).next .linked = .ok (some next) := by
      rw [hstyle (hij.trans hj).le, hnext] at hleads
      rw [← hleads]
      exact Page.next_linked_congr rfl hsame.symm
    have hread : read (pager j).style (v :: (pager j).visited) ⟨v, page.body⟩ =
        .error (leadsBack ⟨v, page.body⟩ next) := by
      rw [hstyle hj.le]
      exact read_eq_error_iff.mpr (.inr ⟨full, .inr ⟨next, hvisited, hleads, rfl⟩⟩)
    unfold turn at hturn
    simp only [Except.bind, hread] at hturn
    obtain ⟨hresult, hover⟩ := Prod.mk.inj hturn
    exact ⟨page.body, next, hfetched, hresult.symm, hover ▸ rfl⟩

end Run

theorem eq_of_withoutFragment {u v : Url} (h : u.withoutFragment = v.withoutFragment)
    (hfragment : u.fragment = v.fragment) : u = v := by
  cases u
  cases v
  simp_all [Url.withoutFragment]

/-- **A page is asked for again only under another fragment.** While no link has a fragment, no two
GETs of a run are for the same page, whatever their answers. A GET for a page that was fetched
before, if it is answered as before, comes to the error that the page leads back, and is the last. -/
theorem refetched_by_fragment_only {t : Transport σ} {count : Nat}
    {result : Nat → Except Error (Option Page)} {pager : Nat → Pager} {world : Nat → World σ}
    (hcalled : CalledTimes t count result pager world) {first : Url}
    (hstart : pager 0 = start .linked first) :
    (∀ i j u v, i < j → j ≤ count → (pager i).pending = some u → (pager j).pending = some v →
      u.withoutFragment = v.withoutFragment → u.fragment ≠ v.fragment) ∧
    (first.fragment = none →
      (∀ n < count, ∀ page href, result n = .ok (some page) → page.LinksTo href →
        '#' ∉ href.toList) →
      ∀ i j u v, i < j → j ≤ count → (pager i).pending = some u → (pager j).pending = some v →
        u.withoutFragment ≠ v.withoutFragment) ∧
    (∀ i j u v, i < j → j < count → (pager i).pending = some u → (pager j).pending = some v →
      u.withoutFragment = v.withoutFragment →
      (∀ fetched fetched' after after',
        Session.run (t.get u) (world i) = .ok (fetched, after) →
        Session.run (t.get v) (world j) = .ok (fetched', after') → fetched = fetched') →
      ∃ body next, next ∈ fetched pager (j + 1) ∧
        result j = .error (leadsBack ⟨v, body⟩ next) ∧ (pager (j + 1)).pending = none) := by
  have hfragment (i j : Nat) (u v : Url) (hij : i < j) (hj : j ≤ count)
      (hu : (pager i).pending = some u) (hv : (pager j).pending = some v)
      (hsame : u.withoutFragment = v.withoutFragment) : u.fragment ≠ v.fragment := fun heq =>
    hcalled.pending_ne hstart hij hj hu hv (eq_of_withoutFragment hsame heq)
  refine ⟨hfragment, fun hfirst hlinks i j u v hij hj hu hv hsame => ?once,
    fun i j u v hij hj hu hv hsame hsteady => ?steady⟩
  case once =>
    apply hfragment i j u v hij hj hu hv hsame
    rw [hcalled.fragment_pending hstart hfirst hlinks (hij.le.trans hj) hu,
      hcalled.fragment_pending hstart hfirst hlinks hj hv]
  case steady =>
    exact hcalled.leads_back hstart hij hj hu hv hsame hsteady

/-! ### A link to a fragment -/

/-- A page with one item that leads to a fragment of itself. -/
def refetchedBody : Json :=
  .object [("links", .array [.object [("href", .string "#p2"), ("rel", .string "next")]]),
    ("results", .array [.number (.natural 1)])]

/-- A service that has the same page everywhere. -/
def refetched : Server Unit := fun peer _ =>
  (⟨1, .ok refetchedBody⟩, peer)

/-- A service that has this page at first, wherever it is asked for, and a last one afterwards. -/
def refetchedOnce : Server Nat := fun n _ =>
  (⟨1, .ok (if n = 0 then refetchedBody else
    .object [("results", .array [.number (.natural 1)])])⟩, n + 1)

def refetchedUrl : Url :=
  { lettersUrl with fragment := some "p2".toList }

/-- Letters without fragments in their links are fetched once each; a page that leads to a fragment
of itself is asked for again, and then leads back. -/
theorem refetched_by_fragment_only_of_letters :
    let more := serviceUrl ["v1", "more"]
    (∃ result pager world, pager 0 = start .linked lettersUrl ∧
      CalledTimes letters.transport 2 result pager world ∧ (pager 0).pending = some lettersUrl ∧
      (pager 1).pending = some more ∧ lettersUrl.withoutFragment ≠ more.withoutFragment) ∧
    ∃ result pager world, pager 0 = start .linked lettersUrl ∧
      CalledTimes refetched.transport 2 result pager world ∧ (pager 0).pending = some lettersUrl ∧
      (pager 1).pending = some refetchedUrl ∧ lettersUrl.fragment ≠ refetchedUrl.fragment ∧
      ∃ body next, result 1 = .error (leadsBack ⟨refetchedUrl, body⟩ next) := by
  intro more
  let run (server : Server Unit) (n : Nat) := after server .linked lettersUrl ⟨0, [], [], ()⟩ n
  let result (server : Server Unit) (n : Nat) := (call server (run server n).1 (run server n).2).1.1
  have hcalled (server : Server Unit) : CalledTimes server.transport 2 (result server)
      (fun n => (run server n).1) fun n => (run server n).2 :=
    fun n _ => runs_after server .linked lettersUrl _ n
  refine ⟨⟨_, _, _, rfl, hcalled letters, rfl, ?more, ?once⟩,
    ⟨_, _, _, rfl, hcalled refetched, rfl, ?again, ?differs, ?back⟩⟩
  case more => decide +kernel
  case again => decide +kernel
  case once =>
    obtain ⟨-, honce, -⟩ := refetched_by_fragment_only (hcalled letters) rfl
    refine honce rfl (fun n hn page href hpage hlink => ?_) 0 1 lettersUrl more (by decide)
      (by decide) rfl (by decide +kernel)
    have hfirst : result letters 0 = .ok (some lettersPage) := by decide +kernel
    have hsecond : result letters 1 = .error (.decode "Field `results` is not an array") := by
      decide +kernel
    have hlinks : (Envelope.links lettersPage.body).map Envelope.nextHref = .ok (some "more") := by
      decide +kernel
    rcases Nat.lt_succ_iff_lt_or_eq.mp hn with hn | rfl
    · obtain rfl := Nat.lt_one_iff.mp hn
      obtain rfl := Option.some.inj (Except.ok.inj (hpage.symm.trans hfirst))
      obtain ⟨links, hfound, hnext⟩ := hlink
      rw [hfound] at hlinks
      obtain rfl := Option.some.inj (hnext.symm.trans (Except.ok.inj hlinks))
      decide
    · cases hpage.symm.trans hsecond
  case differs =>
    obtain ⟨hdiffers, -⟩ := refetched_by_fragment_only (hcalled refetched) rfl
    exact hdiffers 0 1 lettersUrl refetchedUrl (by decide) (by decide) rfl (by decide +kernel) rfl
  case back =>
    obtain ⟨-, -, hback⟩ := refetched_by_fragment_only (hcalled refetched) rfl
    obtain ⟨body, next, -, hresult, -⟩ := hback 0 1 lettersUrl refetchedUrl (by decide) (by decide)
      rfl (by decide +kernel) rfl fun fetched fetched' after after' hget hget' => by
        rw [Server.run_get] at hget hget'
        rw [← (Prod.mk.inj (Except.ok.inj hget)).1, ← (Prod.mk.inj (Except.ok.inj hget')).1]
    exact ⟨body, next, hresult⟩

/-- The items of a page that links to a fragment of itself may be delivered twice: the same GET is
made again. -/
theorem fragment_delivers_twice :
    (∀ n request request', refetchedOnce n request = refetchedOnce n request') ∧
      refetchedUrl.withoutFragment = lettersUrl.withoutFragment ∧
      ((Session.run (allItems refetchedOnce.transport Json.Decoder.uint64 3
        (start .linked lettersUrl)) ⟨0, [], [], 0⟩).map fun (outcome, after) =>
          (outcome, after.sent.map fun entry => entry.2.url)) =
        .ok (.ok [1, 1], [lettersUrl, refetchedUrl]) := by
  refine ⟨fun _ _ _ => rfl, rfl, ?_⟩
  decide +kernel

end Pager

end CloudApi
