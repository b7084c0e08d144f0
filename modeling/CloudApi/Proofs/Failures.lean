import CloudApi.Proofs.Http.Attempts
import CloudApi.Proofs.Task.Created
import CloudApi.Resource

/-! What sessions fail with.

An error of a session is its own or that of an alarm around it. A session has errors of a kind if
all its own ones are (`FailsWith`), and whatever is built of such sessions has errors of that kind
again. Nothing that a client gets to hear is a finding about the request it was given: neither
sending it, nor waiting for the tasks it started, nor taking the result from them
(`failsWith_submit`, `failsWith_settle`). -/
namespace CloudApi

namespace Session
variable {σ α β : Type}

/-- All errors of a session are of a kind, but for those of alarms around it. -/
def FailsWith (kind : Error → Prop) (part : Session σ α) : Prop :=
  ∀ w outcome after, run part w = .ok (outcome, after) → after.alarms = w.alarms ∧
    ∀ e, outcome = .error e → kind e ∨ ∃ a ∈ w.alarms, a.error = e

namespace FailsWith
variable {kind : Error → Prop} {part : Session σ α}

theorem pure (a : α) : FailsWith kind (pure a : Session σ α) := by
  intro w outcome after h
  obtain ⟨rfl, rfl⟩ := Prod.mk.inj (Except.ok.inj h)
  exact ⟨rfl, nofun⟩

theorem ofExcept {outcome : Except Error α} (hkind : ∀ e, outcome = .error e → kind e) :
    FailsWith kind (ofExcept outcome : Session σ α) := by
  intro w ended after h
  obtain ⟨rfl, rfl⟩ := Prod.mk.inj (Except.ok.inj h)
  exact ⟨rfl, fun e he => .inl (hkind e he)⟩

theorem throw {e : Error} (hkind : kind e) : FailsWith kind (throw e : Session σ α) := by
  have hfails : FailsWith kind (Session.ofExcept (.error e) : Session σ α) :=
    .ofExcept fun _ he => Except.error.inj he ▸ hkind
  exact hfails

theorem halt (why : Halt) : FailsWith kind (halt why : Session σ α) :=
  fun _ _ _ => nofun

theorem now : FailsWith kind (now : Session σ Nat) := by
  intro w outcome after h
  obtain ⟨rfl, rfl⟩ := Prod.mk.inj (Except.ok.inj h)
  exact ⟨rfl, nofun⟩

theorem ite {p : Prop} [Decidable p] {no : Session σ α} (h : FailsWith kind part)
    (hno : FailsWith kind no) : FailsWith kind (if p then part else no) := by
  split
  · exact h
  · exact hno

theorem later (moment span : Nat) : FailsWith kind (later moment span : Session σ Nat) :=
  .ite (.pure _) (.halt _)

theorem pass (span : Nat) : FailsWith kind (pass span : Session σ Unit) := by
  intro w outcome after h
  rw [run_pass] at h
  rcases Alarm.first?_cases w.alarms (w.now + span) with ⟨hnone, -⟩ | ⟨a, hmem, hsome, -⟩
  · rw [hnone] at h
    obtain ⟨rfl, rfl⟩ := Prod.mk.inj (Except.ok.inj h)
    exact ⟨rfl, nofun⟩
  · rw [hsome] at h
    obtain ⟨rfl, rfl⟩ := Prod.mk.inj (Except.ok.inj h)
    exact ⟨rfl, fun e he => .inr ⟨a, hmem, Except.error.inj he⟩⟩

theorem bind {rest : α → Session σ β} (h : FailsWith kind part)
    (hrest : ∀ a, FailsWith kind (rest a)) : FailsWith kind (part >>= rest) := by
  intro w outcome after hrun
  rw [run_bind] at hrun
  cases hpart : run part w with
  | error why =>
    rw [hpart] at hrun
    cases hrun
  | ok ended =>
    obtain ⟨first, mid⟩ := ended
    obtain ⟨halarms, hkind⟩ := h w first mid hpart
    rw [hpart] at hrun
    cases first with
    | error e =>
      obtain ⟨rfl, rfl⟩ := Prod.mk.inj (Except.ok.inj hrun)
      exact ⟨halarms, fun e' he => hkind e' (congrArg _ (Except.error.inj he))⟩
    | ok a =>
      obtain ⟨hafter, hlast⟩ := hrest a mid outcome after hrun
      exact ⟨hafter.trans halarms, halarms ▸ hlast⟩

/-- The alarms of a part are no longer around it, so that their errors count as its own. -/
theorem within {alarms : List Alarm} (halarms : ∀ a ∈ alarms, kind a.error)
    (h : FailsWith kind part) : FailsWith kind (within alarms part) := by
  intro w outcome after hrun
  rw [run_within] at hrun
  cases hpart : run part { w with alarms } with
  | error why =>
    rw [hpart] at hrun
    cases hrun
  | ok ended =>
    rw [hpart] at hrun
    obtain ⟨rfl, rfl⟩ := Prod.mk.inj (Except.ok.inj hrun)
    refine ⟨rfl, fun e he => .inl ?_⟩
    rcases (h _ _ _ hpart).2 e he with hkind | ⟨a, hmem, rfl⟩
    · exact hkind
    · exact halarms a hmem

end FailsWith

end Session

/-- An error that is no finding about a request. -/
def Error.NoFinding (e : Error) : Prop :=
  ∀ reason, e ≠ .validation reason

open Error (NoFinding)
open Session (FailsWith)

/-! ### URLs and bodies -/

theorem Endpoint.eq_invalidEndpoint_of_resolve {what path : String} {base : Url} {e : Error}
    (h : Endpoint.resolve what base path = .error e) : ∃ reason, e = .invalidEndpoint reason := by
  unfold Endpoint.resolve at h
  split at h
  · cases h
  · exact ⟨_, (Except.error.inj h).symm⟩

theorem Endpoint.noFinding_resolve {what path : String} {base : Url} {e : Error}
    (h : Endpoint.resolve what base path = .error e) : NoFinding e := by
  obtain ⟨_, rfl⟩ := eq_invalidEndpoint_of_resolve h
  exact nofun

theorem Endpoint.noFinding_resource {endpoint : Endpoint} {base : Url} {segments : List String}
    {e : Error} (h : endpoint.resource base segments = .error e) : NoFinding e :=
  noFinding_resolve h

theorem Envelope.noFinding_whole {α : Type} {decode : Json.Decoder α} {body : Json} {e : Error}
    (h : Envelope.whole decode body = .error e) : NoFinding e := by
  obtain ⟨_, rfl⟩ := explain_eq_error h
  exact nofun

/-! ### Requests -/

namespace Client

theorem noFinding_obstacle {c : Client} {url : Url} {e : Error} (h : c.obstacle? url = some e) :
    NoFinding e := by
  obtain ⟨_, rfl⟩ := eq_http_of_obstacle h
  exact nofun

theorem noFinding_statusError (status : Nat) (text : String) :
    NoFinding (Http.statusError status text) := by
  unfold Http.statusError NoFinding
  grind

theorem noFinding_outcome {url : Url} {reply : Reply} {e : Error}
    (h : outcome url reply = .error e) : NoFinding e := by
  cases reply with
  | answered status body =>
    have hresponse : outcome url (.answered status body) = _ := readResponse_eq url status body
    rw [hresponse] at h
    split at h
    · obtain ⟨-, -, -, _, rfl⟩ := readBody_eq_error h
      exact nofun
    · obtain rfl := Except.error.inj h
      exact noFinding_statusError _ _
  | _ =>
    obtain rfl := Except.error.inj h
    exact nofun

variable {σ : Type} (c : Client) (peer : Peer σ)

theorem failsWith_send (method : Method) (url : Url) (body : Option Json) :
    FailsWith NoFinding ((c.transport peer).send method url body) := by
  intro w result after h
  obtain ⟨_, _, _, hsend, hrepeated, -⟩ := c.exists_run_send peer method url body w
  obtain ⟨rfl, rfl⟩ := Prod.mk.inj (Except.ok.inj (h.symm.trans hsend))
  refine ⟨hrepeated.elapsed.alarms_eq, fun e he => ?_⟩
  cases hsendable : c.obstacle? url with
  | some reason =>
    have hrun := run_attempts_of_obstacle hsendable peer method body
      c.http.retry.maxRetries.toNat 0 w
    obtain ⟨rfl, -⟩ := Prod.mk.inj (Except.ok.inj (h.symm.trans hrun))
    obtain rfl := Except.error.inj he
    exact .inl (noFinding_obstacle hsendable)
  | none =>
    rcases c.run_send_at peer method url body (w := w) hsendable with
      ⟨n, -, hrun⟩ | ⟨a, hmem, _, hrun⟩
    · obtain ⟨rfl, -⟩ := Prod.mk.inj (Except.ok.inj (h.symm.trans hrun))
      exact .inl (noFinding_outcome he)
    · obtain ⟨rfl, -⟩ := Prod.mk.inj (Except.ok.inj (h.symm.trans hrun))
      exact .inr ⟨a, hmem, Except.error.inj he⟩

theorem failsWith_submit (method : Method) (url : Url) (body : Option Json) :
    FailsWith NoFinding (c.submit peer method url body) :=
  .bind (c.failsWith_send peer method url body) fun _ => .ofExcept fun _ => Envelope.noFinding_whole

end Client

/-! ### Waits -/

namespace Waiter
variable {σ α : Type} {waiter : Waiter σ}

theorem noFinding_alarms (id : String) (limit : Nat) (options : WaitOptions)
    (last : Option TaskState) : ∀ a ∈ alarms id limit options last, NoFinding a.error := by
  unfold alarms
  refine List.forall_mem_cons.mpr ⟨nofun, fun a ha => ?_⟩
  split at ha
  · obtain rfl := List.mem_singleton.mp ha
    exact nofun
  · exact absurd ha List.not_mem_nil

theorem failsWith_bounded {id : String} {limit : Nat} {options : WaitOptions}
    {last : Option TaskState} {part : Session σ α} (h : FailsWith NoFinding part) :
    FailsWith NoFinding (bounded id limit options last part) :=
  .bind .now fun _ => .ite (.throw nofun) (.within (noFinding_alarms id limit options last) h)

theorem noFinding_verdict {id : String} {options : WaitOptions} {task : Task}
    {outcome : Except Error Task} (h : verdict id options task = some outcome) :
    ∀ e, outcome = .error e → NoFinding e := by
  rintro e rfl
  unfold verdict at h
  grind [NoFinding]

section Transport
variable (hget : ∀ url, FailsWith NoFinding (waiter.transport.get url))

include hget

theorem failsWith_getTask (id : String) : FailsWith NoFinding (waiter.getTask id) :=
  .bind (.ofExcept fun _ => Endpoint.noFinding_resolve) fun url =>
    .bind (hget url) fun _ => .ofExcept fun _ => Envelope.noFinding_whole

theorem failsWith_poll (id : String) (options : WaitOptions) (limit rounds : Nat)
    (last : Option TaskState) : FailsWith NoFinding (waiter.poll id options limit rounds last) := by
  induction rounds generalizing last with
  | zero => exact .halt _
  | succ rounds ih =>
    refine .bind (failsWith_bounded (failsWith_getTask hget id)) fun task => ?_
    split
    · next outcome hverdict => exact .ofExcept (noFinding_verdict hverdict)
    · refine .bind .now fun now => .ite (.throw nofun) ?_
      exact .bind (.later _ _) fun bound => .bind (failsWith_bounded (.pass _)) fun _ => ih _

theorem failsWith_waitForTask (rounds : Nat) (id : String) (options : WaitOptions) :
    FailsWith NoFinding (waiter.waitForTask rounds id options) :=
  .bind .now fun _ => .bind (.bind (.later _ _) fun _ => .pure _) fun limit =>
    failsWith_poll hget id options limit rounds none

theorem failsWith_settleList (rounds : Nat) (options : WaitOptions) {extract : String → Session σ α}
    (hextract : ∀ task, FailsWith NoFinding (extract task)) (ids : List String) :
    FailsWith NoFinding (waiter.settleList rounds options extract ids) := by
  induction ids with
  | nil => exact .throw nofun
  | cons id ids ih =>
    have hwait := failsWith_waitForTask hget rounds id options
    cases ids with
    | nil => exact .bind hwait fun _ => hextract id
    | cons next ids => exact .bind (.bind hwait fun _ => .ite (.throw nofun) (.pure _)) fun _ => ih

theorem failsWith_settle (rounds : Nat) (tasks : TaskList) (wait : Option WaitOptions)
    {extract : String → Session σ α} (hextract : ∀ task, FailsWith NoFinding (extract task)) :
    FailsWith NoFinding (waiter.settle rounds tasks wait extract) := by
  cases wait with
  | none => exact .pure _
  | some options =>
    exact .bind (failsWith_settleList hget rounds options hextract tasks.tasks) fun _ => .pure _

end Transport

end Waiter

/-! ### Operations on resources -/

theorem Task.noFinding_firstCreatedId {task : Task} {key : String} {e : Error}
    (h : task.firstCreatedId key = .error e) : NoFinding e := by
  rcases task.firstCreatedId_cases key with ⟨_, _, -, hfirst⟩ | ⟨-, hfirst⟩
  · cases hfirst.symm.trans h
  · obtain rfl := Except.error.inj (hfirst.symm.trans h)
    exact nofun

theorem Id.noFinding_parse {kind : IdKind} {raw : String} {e : Error}
    (h : (Id.parse raw : Except Error (Id kind)) = .error e) : NoFinding e := by
  unfold Id.parse at h
  split at h
  · cases h
  · obtain rfl := Except.error.inj h
    exact nofun

namespace ResourceClient
variable {kind : IdKind} {α β σ : Type} (c : ResourceClient kind α) (peer : Peer σ)

theorem failsWith_get (id : Id kind) : FailsWith NoFinding (c.get peer id) := by
  refine .bind (.ofExcept fun _ h => Endpoint.noFinding_resource h) fun url => .bind ?_ fun _ =>
    .ofExcept fun _ => Envelope.noFinding_whole
  exact c.client.failsWith_send peer .get url none

theorem failsWith_lookAt (url : Url) :
    FailsWith NoFinding ((c.waiter peer).transport.get url) :=
  c.client.failsWith_send peer .get url none

theorem failsWith_created (task : String) : FailsWith NoFinding (c.created peer task) :=
  .bind (Waiter.failsWith_getTask (c.failsWith_lookAt peer) task) fun _ =>
    .bind (.ofExcept fun _ => Task.noFinding_firstCreatedId) fun _ =>
      .bind (.ofExcept fun _ => Id.noFinding_parse) fun id => c.failsWith_get peer id

/-- A valid mutation comes to no finding. -/
theorem failsWith_mutate (rounds : Nat) (method : Method) {url : Except Error Url}
    (hurl : ∀ e, url = .error e → NoFinding e) (body : Option Json) (wait : Option WaitOptions)
    {extract : String → Session σ β} (hextract : ∀ task, FailsWith NoFinding (extract task)) :
    FailsWith NoFinding (c.mutate peer rounds [] method url body wait extract) := by
  have hsends : FailsWith NoFinding (do
      let u ← Session.ofExcept url
      let tasks ← c.client.submit peer method u body
      (c.waiter peer).settle rounds tasks wait extract) :=
    .bind (.ofExcept hurl) fun u =>
      .bind (c.client.failsWith_submit peer method u body) fun tasks =>
        Waiter.failsWith_settle (c.failsWith_lookAt peer) rounds tasks wait hextract
  exact hsends

theorem failsWith_change (id : Id kind) (request : Json) :
    FailsWith NoFinding (c.change peer id [] request) := by
  have hsends : FailsWith NoFinding (do
      let u ← Session.ofExcept (c.url id [])
      let body ← (c.transport peer).send .patch u (some request)
      Session.ofExcept (Envelope.whole c.decode body)) := by
    refine .bind (.ofExcept fun _ h => Endpoint.noFinding_resource h) fun u => .bind ?_ fun _ =>
      .ofExcept fun _ => Envelope.noFinding_whole
    exact c.client.failsWith_send peer .patch u (some request)
  exact hsends

end ResourceClient

end CloudApi
