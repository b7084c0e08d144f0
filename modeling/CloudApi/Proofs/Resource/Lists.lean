import CloudApi.Proofs.Http.Attempts
import CloudApi.Proofs.Pager.Readers
import CloudApi.Resource

/-! Lists of resources.

A client reaches its peer in any case, so that the pager of a list can be called over and over. What
all resources of a list come to is told by these calls: they end with one of them, or there are more
pages than rounds (`run_listAll`). -/
namespace CloudApi

/-- What a client of resources is built as. -/
theorem ResourceSetup.eq_of_build {kind : IdKind} {α : Type} {s : ResourceSetup} {family : Family}
    {style : PageStyle} {decode : Json.Decoder α} {c : ResourceClient kind α}
    (h : s.build family style decode = .ok c) :
    c = ⟨⟨s.client.base, s.client.http, s.client.token, s.client.userAgent⟩,
      ⟨s.version, family, s.project, s.region⟩, style, decode, s.pageLimit, s.wait⟩ := by
  unfold build ClientSetup.build at h
  split at h
  · exact (Except.ok.inj h).symm
  · cases h

namespace ResourceClient
variable {kind : IdKind} {α σ : Type} (c : ResourceClient kind α) (peer : Peer σ)

/-- A GET comes to something, whatever the peer does. -/
theorem exists_run_get (url : Url) (w : World σ) :
    ∃ fetched after, Session.run ((c.transport peer).get url) w = .ok (fetched, after) := by
  obtain ⟨fetched, after, -, hrun, -⟩ := c.client.exists_run_send peer .get url none w
  exact ⟨fetched, after, hrun⟩

/-- Only what can be sent at all is answered. -/
theorem obstacle_of_run_get {c : ResourceClient kind α} {peer : Peer σ} {url : Url} {body : Json}
    {w after : World σ} (h : Session.run ((c.transport peer).get url) w = .ok (.ok body, after)) :
    c.client.obstacle? url = none := by
  obtain ⟨_, _, _, hrun, -, -, -, -, hobstacle⟩ := c.client.exists_run_send peer .get url none w
  have hsame := (Prod.mk.inj (Except.ok.inj (h.symm.trans hrun))).1
  by_contra hsome
  obtain ⟨e, he⟩ := Option.ne_none_iff_exists'.mp hsome
  rw [(hobstacle e he).1] at hsame
  cases hsame

/-- What a call fetches, it puts into the log as copies of one GET. -/
theorem sent_of_call {c : ResourceClient kind α} {peer : Peer σ}
    {result : Nat → Except Error (Option Page)} {pager : Nat → Pager} {world : Nat → World σ}
    (hcalled : Pager.Called (c.transport peer) result pager world) (n : Nat) :
    world (n + 1) = world n ∨ ∃ url copies, (pager n).pending = some url ∧
      (world (n + 1)).sent.map Prod.snd = (world n).sent.map Prod.snd ++
        List.replicate copies (c.client.request .get url none) := by
  rcases Pager.run_nextPage_cases (hcalled n) with ⟨-, -, -, hsame⟩ | ⟨url, _, hurl, hget, -⟩
  · exact .inl hsame
  · obtain ⟨_, _, copies, hrun, hrepeated, -⟩ := c.client.exists_run_send peer .get url none (world n)
    obtain ⟨-, rfl⟩ := Prod.mk.inj (Except.ok.inj (hget.symm.trans hrun))
    exact .inr ⟨url, copies, hurl, hrepeated.sent⟩

/-- A list that has no URL comes to an error and sends nothing. -/
theorem run_listAll_of_error {hasLimit : Bool} {query : Query} {e : Error}
    (h : c.list hasLimit query = .error e) (rounds : Nat) (w : World σ) :
    Session.run (c.listAll peer rounds hasLimit query) w = .ok (.error e, w) := by
  unfold listAll
  exact Session.run_bind_error (by rw [h]; rfl)

/-- **The resources of a list are read call by call**, up to one that gives no page or one whose
page does not decode. -/
theorem run_listAll {hasLimit : Bool} {query : Query} {first : Pager}
    (h : c.list hasLimit query = .ok first) (w : World σ) :
    ∃ result pager world, pager 0 = first ∧ world 0 = w ∧
      Pager.Called (c.transport peer) result pager world ∧
      ∀ rounds,
        (∃ n outcome, n < rounds ∧ (∀ i < n, ∃ page, result i = .ok (some page)) ∧
          Session.run (c.listAll peer rounds hasLimit query) w = .ok (outcome, world (n + 1))) ∨
        (∀ i < rounds, ∃ page, result i = .ok (some page)) ∧
          Session.run (c.listAll peer rounds hasLimit query) w = .error .unfinished := by
  obtain ⟨result, pager, world, rfl, rfl, hcalled⟩ :=
    Pager.exists_called (c.exists_run_get peer) first w
  refine ⟨result, pager, world, rfl, rfl, hcalled, fun rounds => ?_⟩
  have hall : Session.run (c.listAll peer rounds hasLimit query) (world 0) =
      Session.run ((pager 0).allItems (c.transport peer) c.decode rounds) (world 0) := by
    unfold listAll
    exact Session.run_bind_ok (by rw [h]; rfl)
  rw [hall]
  rcases Pager.run_eachPage_cases hcalled (Pager.gather c.decode) [] 0 rounds with
    ⟨n, outcome, last, -, hlt, hbefore, hrun⟩ | ⟨hmore, hrun⟩
  · exact .inl ⟨n, _, by omega, fun i hi => hbefore i (Nat.zero_le i) hi, Pager.run_allItems hrun⟩
  · exact .inr ⟨fun i hi => hmore i (Nat.zero_le i) (by omega), Session.run_bind_halt hrun⟩

end ResourceClient

end CloudApi
