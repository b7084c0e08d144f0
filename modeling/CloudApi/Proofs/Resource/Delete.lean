import CloudApi.Proofs.Failures
import CloudApi.Proofs.Resource.Create
import CloudApi.Proofs.Uuid

/-! Deleting a resource, from the DELETE to the 404.

When the tasks of a deletion have settled (`DeleteSettled`), the resource is fetched once more, and
nothing but a 404 confirms that it is gone (`Confirmation`). The same 404 is an error where it
answers the DELETE or a look at a task: there the first step that fails decides, and the resource is
not fetched at all (`deletes`). -/
namespace CloudApi

namespace ResourceClient
variable {kind : IdKind} {α σ : Type} (c : ResourceClient kind α) (peer : Peer σ) (id : Id kind)

/-! ### The last GET -/

/-- What fetching a resource after its deletion comes to. -/
inductive Confirmation (w : World σ) : List Step → Except Error Unit → World σ → Prop where
  | nowhere {e : Error} (noUrl : c.url id [] = .error e) : Confirmation w [] (.error e) w
  /-- It is not found, which confirms the deletion. -/
  | gone {site : Url} {reason : String} {after : World σ} (here : c.url id [] = .ok site)
    (got : Session.run ((c.transport peer).get site) w =
      .ok (.error (.notFound reason), after)) :
    Confirmation w [.get site (.error (.notFound reason))] (.ok ()) after
  /-- It is there still. -/
  | stands {site : Url} {body : Json} {a : α} {after : World σ} (here : c.url id [] = .ok site)
    (got : Session.run ((c.transport peer).get site) w = .ok (.ok body, after))
    (decodes : Envelope.whole c.decode body = .ok a) :
    Confirmation w [.get site (.ok body)] (.error (.resourceStillExists id.text)) after
  /-- The GET fails in another way, or what it gives does not decode. -/
  | fails {site : Url} {result : Except Error Json} {e : Error} {after : World σ}
    (here : c.url id [] = .ok site)
    (got : Session.run ((c.transport peer).get site) w = .ok (result, after))
    (comes : result.bind (Envelope.whole c.decode) = .error e)
    (other : ∀ reason, e ≠ .notFound reason) :
    Confirmation w [.get site result] (.error e) after

section Confirmation
variable {c peer id}

theorem url_ne_notFound {action : List String} {reason : String} :
    c.url id action ≠ .error (.notFound reason) := by
  intro h
  obtain ⟨_, ⟨⟩⟩ := Endpoint.eq_invalidEndpoint_of_resolve h

theorem whole_ne_notFound {γ : Type} {decode : Json.Decoder γ} {body : Json} {reason : String} :
    Envelope.whole decode body ≠ .error (.notFound reason) := by
  intro h
  obtain ⟨_, ⟨⟩⟩ := Envelope.explain_eq_error h

theorem confirmDeleted_error {e : Error} (other : ∀ reason, e ≠ .notFound reason)
    (resource : String) : confirmDeleted (.error e : Except Error α) resource = .error e := by
  unfold confirmDeleted
  split
  · next h => cases h
  · next reason h => exact absurd (Except.error.inj h) (other reason)
  · next h => exact congrArg _ (Except.error.inj h).symm

/-- The resource is fetched, and what that comes to decides. -/
theorem confirmation_iff {w after : World σ} {steps : List Step} {outcome : Except Error Unit} :
    c.Confirmation peer id w steps outcome after ↔
      ∃ fetched, c.Gets peer id w steps fetched after ∧
        confirmDeleted fetched id.text = outcome := by
  constructor
  · intro h
    cases h with
    | nowhere noUrl =>
      refine ⟨_, .nowhere noUrl, confirmDeleted_error (fun reason he => ?_) _⟩
      exact url_ne_notFound (he ▸ noUrl)
    | gone here got => exact ⟨_, .answered here got, rfl⟩
    | stands here got decodes => exact ⟨_, .answered here got, by rw [Except.bind, decodes]; rfl⟩
    | fails here got comes other =>
      exact ⟨_, .answered here got, by rw [comes]; exact confirmDeleted_error other _⟩
  · rintro ⟨fetched, hgets, rfl⟩
    cases hgets with
    | @nowhere e noUrl =>
      rw [confirmDeleted_error fun reason he => url_ne_notFound (he ▸ noUrl)]
      exact .nowhere noUrl
    | @answered site result _ here got =>
      cases hresult : result.bind (Envelope.whole c.decode) with
      | ok a =>
        cases result with
        | error e => cases hresult
        | ok body => exact .stands here got hresult
      | error e =>
        by_cases hnotFound : ∃ reason, e = .notFound reason
        · obtain ⟨reason, rfl⟩ := hnotFound
          cases result with
          | error e =>
            obtain rfl := Except.error.inj hresult
            exact .gone here got
          | ok body => exact absurd hresult whole_ne_notFound
        · have hother := not_exists.mp hnotFound
          rw [confirmDeleted_error hother]
          exact .fails here got hresult hother

theorem Gets.run_confirmGone {w after : World σ} {steps : List Step} {fetched : Except Error α}
    (h : c.Gets peer id w steps fetched after) :
    Session.run (c.confirmGone peer id) w = .ok (confirmDeleted fetched id.text, after) := by
  have hattempt : Session.run (Session.attempt (c.get peer id)) w = .ok (.ok fetched, after) := by
    rw [Session.run_attempt, h.run]
    rfl
  unfold confirmGone
  rw [Session.run_bind_ok hattempt]
  exact Session.run_ofExcept _ after

/-- How a deletion is confirmed is known. -/
theorem tells_confirmation :
    Tells (c.transport peer) (fun _ => c.Confirmation peer id) fun _ => c.confirmGone peer id := by
  have ht : Timely (c.transport peer) := c.client.timely peer
  refine ⟨fun _ w => ?goes, fun h => ?run, fun h => ?steps, fun h => ?gets⟩
  case goes =>
    obtain ⟨steps, fetched, after, hgets⟩ := exists_fetch (c.url id []) c.decode w ht
    exact ⟨steps, _, after, confirmation_iff.mpr ⟨fetched, hgets, rfl⟩⟩
  case run =>
    obtain ⟨fetched, hgets, rfl⟩ := confirmation_iff.mp h
    exact hgets.run_confirmGone
  case steps =>
    obtain ⟨fetched, hgets, -⟩ := confirmation_iff.mp h
    exact Fetch.steps ht hgets
  case gets =>
    obtain ⟨fetched, hgets, -⟩ := confirmation_iff.mp h
    exact Fetch.gets hgets

end Confirmation

/-! ### The whole deletion -/

section Whole
variable (rounds : Nat) (options : WaitOptions) (w : World σ)

/-- How a deletion that is waited for may go. -/
abbrev Deleting : List Step → Except Error (Outcome Unit) → World σ → Prop :=
  Mutation c peer rounds .delete (c.url id []) none (some options)
    (fun _ => c.Confirmation peer id) w

/-- The DELETE was answered with tasks, and they settled. -/
inductive DeleteSettled (site : Url) : List Step → World σ → Prop where
  | intro {answer : Json} {tasks : TaskList} {last : String} {looks : List Step}
    {begun settled : World σ} (here : c.url id [] = .ok site)
    (answered : c.Answered peer .delete none site w (.ok answer) begun)
    (reads : TaskList.ofBody answer = .ok tasks)
    (settles : (c.waiter peer).Settled options rounds tasks.tasks begun looks last settled) :
    DeleteSettled site (⟨.delete, site, none, .ok answer⟩ :: looks) settled

/-- What a deletion asks for while its tasks have not settled: the DELETE, and then nothing but
looks at the tasks it was answered with. -/
inductive DeleteAsks : List Step → Prop where
  | nothing : DeleteAsks []
  | asked {site : Url} {answer : Except Error Json} (here : c.url id [] = .ok site) :
    DeleteAsks [⟨.delete, site, none, answer⟩]
  | looked {site : Url} {answer : Json} {tasks : TaskList} {looks : List Step}
    (here : c.url id [] = .ok site) (reads : TaskList.ofBody answer = .ok tasks)
    (looksAt : ∀ step ∈ looks, (c.waiter peer).LooksAt tasks.tasks step) :
    DeleteAsks (⟨.delete, site, none, .ok answer⟩ :: looks)

section Settled
variable {c peer id rounds options w} {site : Url} {first more : List Step} {settled after : World σ}

theorem DeleteSettled.steps (h : c.DeleteSettled peer id rounds options w site first settled) :
    Steps (c.transport peer) first w settled := by
  cases h with
  | intro here answered reads settles => exact .next answered.taken settles.steps

/-- Nothing fails on the way to settled tasks. -/
theorem DeleteSettled.result_ne_error
    (h : c.DeleteSettled peer id rounds options w site first settled) :
    ∀ step ∈ first, ∀ e, step.result ≠ .error e := by
  cases h with
  | intro here answered reads settles =>
    exact List.forall_mem_cons.mpr ⟨fun e => nofun, fun step hstep => (settles.looks step hstep).2⟩

/-- After settled tasks the resource is fetched. -/
theorem DeleteSettled.deleting {confirmed : Except Error Unit}
    (h : c.DeleteSettled peer id rounds options w site first settled)
    (hconfirmation : c.Confirmation peer id settled more confirmed after) :
    c.Deleting peer id rounds options w (first ++ more) (confirmed.map .completed) after := by
  cases h with
  | intro here answered reads settles =>
    exact .settles here answered reads rfl (settles.settling hconfirmation)

/-- **The tasks of a deletion settle, and then the resource is fetched, or the deletion comes to an
error**: the one of the step that fails, if one does. -/
theorem deleting_cases {steps : List Step} {outcome : Except Error (Outcome Unit)}
    (h : c.Deleting peer id rounds options w steps outcome after) :
    (∃ e, outcome = .error e ∧ c.DeleteAsks peer id steps ∧
      ∀ step ∈ steps, ∀ e', step.result = .error e' → e' = e) ∨
    ∃ site first more settled confirmed, steps = first ++ more ∧
      outcome = confirmed.map .completed ∧
      c.DeleteSettled peer id rounds options w site first settled ∧
      c.Confirmation peer id settled more confirmed after := by
  cases h with
  | nowhere noUrl => exact .inl ⟨_, rfl, .nothing, fun _ h => absurd h List.not_mem_nil⟩
  | sendFails here answered =>
    refine .inl ⟨_, rfl, .asked here, List.forall_mem_singleton.mpr fun e he => ?_⟩
    exact (Except.error.inj he).symm
  | unread here answered reads =>
    exact .inl ⟨_, rfl, .asked here, List.forall_mem_singleton.mpr fun e he => by cases he⟩
  | submitted here answered reads handed => cases handed
  | settles here answered reads waits settling =>
    obtain rfl := Option.some.inj waits
    rcases settling.stops_or_settled with
      ⟨e, rfl, hlooks⟩ | ⟨looks, more, last, mid, rfl, hsettled, hconfirmation⟩
    · refine .inl ⟨e, rfl, .looked here reads fun step hstep => (hlooks step hstep).1, ?_⟩
      refine List.forall_mem_cons.mpr ⟨fun e he => ?_, fun step hstep => (hlooks step hstep).2⟩
      cases he
    · exact .inr ⟨_, _, more, mid, _, rfl, rfl, .intro here answered reads hsettled, hconfirmation⟩

end Settled

/-- What deleting a resource and waiting for it comes to. -/
structure Deletes (run : Except Halt (Except Error (Outcome Unit) × World σ)) : Prop where
  /-- The deletion is confirmed exactly if its tasks settle and the last reply to the GET after them
  is a 404. -/
  confirmed_iff : ∀ after, run = .ok (.ok (.completed ()), after) ↔
    ∃ site first settled text, c.DeleteSettled peer id rounds options w site first settled ∧
      c.client.LastReply peer .get site none settled (.answered 404 text) after
  /-- It comes to what the GET after settled tasks says, or to an error before it, which is the one
  of any step that failed. -/
  course : ∀ outcome after, run = .ok (outcome, after) → ∃ steps requests,
    Steps (c.transport peer) steps w after ∧ Logged c.client steps requests ∧
    after.sent.map Prod.snd = w.sent.map Prod.snd ++ requests ∧
    ((∃ e, outcome = .error e ∧ c.DeleteAsks peer id steps ∧
      ∀ step ∈ steps, ∀ e', step.result = .error e' → e' = e) ∨
    ∃ site first more settled confirmed, steps = first ++ more ∧
      outcome = confirmed.map .completed ∧
      c.DeleteSettled peer id rounds options w site first settled ∧
      (∀ step ∈ first, ∀ e, step.result ≠ .error e) ∧
      c.Confirmation peer id settled more confirmed after)
  /-- Settled tasks are followed by the GET. -/
  goesOn : ∀ site first settled, c.DeleteSettled peer id rounds options w site first settled →
    ∃ more confirmed after, c.Confirmation peer id settled more confirmed after ∧
      run = .ok (confirmed.map .completed, after)
  /-- A 404 to the DELETE is the outcome. -/
  refused : ∀ site text after, c.url id [] = .ok site →
    c.client.LastReply peer .delete site none w (.answered 404 text) after →
    run = .ok (.error (.notFound (String.ofList (Text.Utf8.decode text))), after)
  /-- It comes to nothing only if one of its waits does. -/
  halts : ∀ why, run = .error why → ∃ site answer tasks begun, c.url id [] = .ok site ∧
    c.Answered peer .delete none site w (.ok answer) begun ∧
    TaskList.ofBody answer = .ok tasks ∧
    Waiter.Short options rounds (begun.now + tasks.tasks.length * options.timeout.toNanos) why

variable {c peer id rounds options w}

theorem run_delete_iff {outcome : Except Error (Outcome Unit)} {after : World σ} :
    Session.run (c.delete peer rounds id (some options)) w = .ok (outcome, after) ↔
      ∃ steps, c.Deleting peer id rounds options w steps outcome after :=
  run_mutate_iff tells_confirmation w after outcome

theorem DeleteSettled.here {site : Url} {first : List Step} {settled : World σ}
    (h : c.DeleteSettled peer id rounds options w site first settled) : c.url id [] = .ok site := by
  cases h with
  | intro here answered reads settles => exact here

/-- Where nothing calls the GET off, its last reply confirms the deletion or does not. -/
theorem confirmation_ok_iff {site : Url} (here : c.url id [] = .ok site) {after : World σ}
    (hquiet : w.alarms = []) :
    (∃ steps, c.Confirmation peer id w steps (.ok ()) after) ↔
      ∃ text, c.client.LastReply peer .get site none w (.answered 404 text) after := by
  constructor
  · rintro ⟨steps, h⟩
    generalize houtcome : (Except.ok () : Except Error Unit) = outcome at h
    cases h with
    | gone there got =>
      obtain rfl := Except.ok.inj (here.symm.trans there)
      obtain ⟨text, hlast, -⟩ := (Client.run_send_notFound_iff hquiet).mp got
      exact ⟨text, hlast⟩
    | nowhere => cases houtcome
    | stands => cases houtcome
    | fails => cases houtcome
  · rintro ⟨text, hlast⟩
    exact ⟨_, .gone here ((Client.run_send_notFound_iff hquiet).mpr ⟨text, hlast, rfl⟩)⟩

theorem deletes (hquiet : w.alarms = []) : c.Deletes peer id rounds options w
    (Session.run (c.delete peer rounds id (some options)) w) where
  confirmed_iff after := by
    rw [run_delete_iff]
    constructor
    · rintro ⟨steps, hdeleting⟩
      rcases deleting_cases hdeleting with
        ⟨e, he, -⟩ | ⟨site, first, more, settled, confirmed, -, hok, hsettled, hconfirmation⟩
      · cases he
      · cases confirmed with
        | error e => cases hok
        | ok =>
          have hsettledQuiet := hsettled.steps.alarms_eq.trans hquiet
          obtain ⟨text, hlast⟩ :=
            (confirmation_ok_iff hsettled.here hsettledQuiet).mp ⟨more, hconfirmation⟩
          exact ⟨site, first, settled, text, hsettled, hlast⟩
    · rintro ⟨site, first, settled, text, hsettled, hlast⟩
      have hsettledQuiet := hsettled.steps.alarms_eq.trans hquiet
      obtain ⟨more, hconfirmation⟩ :=
        (confirmation_ok_iff hsettled.here hsettledQuiet).mpr ⟨text, hlast⟩
      exact ⟨first ++ more, hsettled.deleting hconfirmation⟩
  course outcome after hrun := by
    obtain ⟨steps, hdeleting⟩ := run_delete_iff.mp hrun
    obtain ⟨hsteps, -⟩ := Mutation.steps tells_confirmation hdeleting
    obtain ⟨requests, hlogged, hsent⟩ := hsteps.logged
    refine ⟨steps, requests, hsteps, hlogged, hsent, ?_⟩
    rcases deleting_cases hdeleting with
      hstops | ⟨site, first, more, settled, confirmed, hsplit, houtcome, hsettled, hconfirmation⟩
    · exact .inl hstops
    · exact .inr ⟨site, first, more, settled, confirmed, hsplit, houtcome, hsettled,
        hsettled.result_ne_error, hconfirmation⟩
  goesOn site first settled hsettled := by
    have htells : Tells (c.transport peer) (fun _ => c.Confirmation peer id) _ := tells_confirmation
    obtain ⟨more, confirmed, after, hconfirmation⟩ := htells.goes "" settled
    exact ⟨more, confirmed, after, hconfirmation,
      run_delete_iff.mpr ⟨_, hsettled.deleting hconfirmation⟩⟩
  refused site text after here hlast := by
    have hanswered := (Client.run_send_notFound_iff hquiet).mpr ⟨text, hlast, rfl⟩
    exact run_delete_iff.mpr ⟨_, .sendFails here hanswered⟩
  halts why hwhy := by
    rcases mutation_or_halted rounds .delete (c.url id []) none (some options) tells_confirmation w
      with ⟨_, _, _, hgoes⟩ | ⟨why', hhalts, site, answer, tasks, _, begun, here, hanswered, hreads,
        hwaits, hshort⟩
    · cases (hgoes.run tells_confirmation).symm.trans hwhy
    · obtain rfl := Option.some.inj hwaits
      obtain rfl := Except.error.inj (hhalts.symm.trans hwhy)
      exact ⟨site, answer, tasks, begun, here, hanswered, hreads, hshort⟩

end Whole

end ResourceClient

/-- **Deleting a resource, step by step.** The resource is fetched once its tasks have settled and
not before, and only a 404 to that GET confirms the deletion; its message about a resource that is
there still has the hyphenated identifier. Any other step with a 404 for its last reply fails. -/
theorem delete_steps {kind : IdKind} {α σ : Type} (c : ResourceClient kind α) (peer : Peer σ)
    (id : Id kind) (rounds : Nat) (options : WaitOptions) (w : World σ) (hquiet : w.alarms = []) :
    c.Deletes peer id rounds options w
      (Session.run (c.delete peer rounds id (some options)) w) ∧
    (∀ (step : Step) (before after later : World σ) (text : List UInt8),
      step.Taken (c.transport peer) before after →
      c.client.LastReply peer step.method step.url step.body before (.answered 404 text) later →
      ∃ e, step.result = .error e) ∧
    id.text = String.ofList (['-'].intercalate (id.uuid.groups.map Uuid.hex)) :=
  ⟨ResourceClient.deletes hquiet, fun _ _ _ _ _ htaken hlast => htaken.error_of_lastReply hlast,
    id.uuid.text_eq_groups⟩

/-! ### A deletion with a task that fails -/

/-- A service that starts two tasks for a deletion, of which the second one fails, and does not find
the resource afterwards. -/
def deleting : Peer Nat :=
  .inOrder fun
    | 0 => ⟨1, .answered 200 "\x7b\"tasks\":[\"t\",\"u\"]\x7d".toUTF8.toList⟩
    | 1 => ⟨1, .answered 200 "\x7b\"id\":\"t\",\"state\":\"FINISHED\"\x7d".toUTF8.toList⟩
    | 2 => ⟨1, .answered 200 "\x7b\"id\":\"u\",\"state\":\"ERROR\"\x7d".toUTF8.toList⟩
    | _ => ⟨1, .answered 404 "gone".toUTF8.toList⟩

/-- A service that finds nothing. -/
def findingNothing : Peer Nat :=
  .inOrder fun _ => ⟨1, .answered 404 "gone".toUTF8.toList⟩

def deletedId {kind : IdKind} : Id kind :=
  ⟨⟨List.replicate 32 10, rfl⟩⟩

/-- The failure of the last task counts for nothing, and the 404 at the end confirms the deletion;
the same 404 to the DELETE does not. -/
theorem delete_steps_of_failed_task :
    let w : World Nat := ⟨0, [], [], 0⟩
    let options : WaitOptions := { WaitOptions.standard with throwOnFailure := false }
    w.alarms = [] ∧
      (∃ site first settled text after,
        ResourceClient.DeleteSettled creatingVolumes deleting deletedId 1 options w site first
          settled ∧
        creatingVolumes.client.LastReply deleting .get site none settled (.answered 404 text)
          after) ∧
      (∃ after, Session.run (ResourceClient.delete creatingNetworks findingNothing 1 deletedId
        (some options)) w = .ok (.error (.notFound "gone"), after)) ∧
      (deletedId : VolumeId).text = "aaaaaaaa-aaaa-aaaa-aaaa-aaaaaaaaaaaa" := by
  intro w options
  refine ⟨rfl, ?confirmed, ?refused, by decide +kernel⟩
  case confirmed =>
    obtain ⟨hdeletes, -⟩ := delete_steps creatingVolumes deleting deletedId 1 options w rfl
    have hends : ((Session.run (ResourceClient.delete creatingVolumes deleting 1 deletedId
        (some options)) w).map fun (outcome, _) => outcome.map Outcome.completed?) =
        .ok (.ok (some ())) := by decide +kernel
    obtain ⟨⟨outcome, after⟩, hrun, hresult⟩ := exists_of_map_eq_ok hends
    obtain ⟨⟨⟩ | _, rfl, hdone⟩ := exists_of_map_eq_ok hresult
    · obtain ⟨site, first, settled, text, hsettled, hlast⟩ := (hdeletes.confirmed_iff after).mp hrun
      exact ⟨site, first, settled, text, after, hsettled, hlast⟩
    · cases hdone
  case refused =>
    obtain ⟨hdeletes, -⟩ := delete_steps creatingNetworks findingNothing deletedId 1 options w rfl
    let site := serviceUrl ["v1", "networks", "1", "2", "aaaaaaaa-aaaa-aaaa-aaaa-aaaaaaaaaaaa"]
    have here : creatingNetworks.url deletedId [] = .ok site := by decide +kernel
    have hlast : ∃ after, creatingNetworks.client.LastReply findingNothing .delete site none w
        (.answered 404 "gone".toUTF8.toList) after :=
      ⟨_, .intro (by decide) ⟨Nat.zero_le _, fun i hi => absurd hi (Nat.not_lt_zero i),
        .inr fun hgoes => absurd hgoes.2 (by decide)⟩⟩
    obtain ⟨after, hlast⟩ := hlast
    have hmessage : String.ofList (Text.Utf8.decode "gone".toUTF8.toList) = "gone" := by
      decide +kernel
    exact ⟨after, hmessage ▸ hdeletes.refused site _ after here hlast⟩

end CloudApi
