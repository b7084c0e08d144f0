import CloudApi.Proofs.Http.Attempts
import CloudApi.Proofs.Task.Looks
import CloudApi.Resource

/-! Mutations, step by step.

A mutation is told by the steps it takes, without its code: how its tasks settle (`Settling`) and
what comes before that (`Mutation`). An extractor is told by a relation of the same kind (`Tells`).
A mutation comes to what its description says and to nothing else (`run_mutate_iff`), and it comes
to something unless one of its waits has too few rounds or too little clock (`mutation_or_halted`).
Over a client each step stands in the log as copies of one request, the repetitions of it
(`Logged`). -/
namespace CloudApi

/-! ### Steps in the log of a client -/

/-- Whether a number of copies of a request in the log stands for one step. -/
structure Client.Copies (c : Client) (step : Step) (copies : Nat) : Prop where
  le : copies ≤ c.http.retry.maxRetries.toNat + 1
  once : step.method.isIdempotent = false → copies ≤ 1
  /-- Only a request that cannot be sent at all leaves no copy. -/
  none_iff : copies = 0 ↔ c.obstacle? step.url ≠ none

/-- The requests that steps leave in the log of a client, in order. -/
inductive Logged (c : Client) : List Step → List Request → Prop where
  | nil : Logged c [] []
  | cons {step : Step} {steps : List Step} {copies : Nat} {requests : List Request}
    (sent : c.Copies step copies) (rest : Logged c steps requests) :
    Logged c (step :: steps)
      (List.replicate copies (c.request step.method step.url step.body) ++ requests)

section Log
variable {σ : Type} {c : Client} {peer : Peer σ}

theorem Step.Taken.logged {step : Step} {w after : World σ}
    (h : step.Taken (c.transport peer) w after) :
    ∃ copies, c.Copies step copies ∧ after.sent.map Prod.snd = w.sent.map Prod.snd ++
      List.replicate copies (c.request step.method step.url step.body) := by
  obtain ⟨alarms, last, hrun, rfl⟩ := h
  obtain ⟨result, after, copies, hsend, hrepeated, hle, honce, hnone, -⟩ :=
    c.exists_run_send peer step.method step.url step.body { w with alarms }
  obtain ⟨-, rfl⟩ := Prod.mk.inj (Except.ok.inj (hrun.symm.trans hsend))
  exact ⟨copies, ⟨hle, honce, hnone⟩, hrepeated.sent⟩

/-- **The log tells the steps**: copies of the request of each, in order. -/
theorem Steps.logged {steps : List Step} {w after : World σ}
    (h : Steps (c.transport peer) steps w after) :
    ∃ requests, Logged c steps requests ∧
      after.sent.map Prod.snd = w.sent.map Prod.snd ++ requests := by
  induction h with
  | done w => exact ⟨[], .nil, (List.append_nil _).symm⟩
  | paused _ _ ih => exact ih
  | next htaken _ ih =>
    obtain ⟨copies, hcopies, hsent⟩ := htaken.logged
    obtain ⟨requests, hlogged, hrest⟩ := ih
    exact ⟨_, .cons hcopies hlogged, by rw [hrest, hsent, List.append_assoc]⟩

/-- Where no step is of a method, no request is. -/
theorem Logged.ne_of_forall_ne {steps : List Step} {requests : List Request}
    (h : Logged c steps requests) {method : Method}
    (hsteps : ∀ step ∈ steps, step.method ≠ method) :
    ∀ r ∈ requests, r.method ≠ method := by
  induction h with
  | nil => exact fun r hr => absurd hr List.not_mem_nil
  | cons _ _ ih =>
    obtain ⟨hstep, hrest⟩ := List.forall_mem_cons.mp hsteps
    intro r hr
    rcases List.mem_append.mp hr with hr | hr
    · rw [List.eq_of_mem_replicate hr]
      exact hstep
    · exact ih hrest r hr

/-- A step whose last reply is a 404 comes to an error. -/
theorem Step.Taken.error_of_lastReply {step : Step} {w after later : World σ}
    (h : step.Taken (c.transport peer) w after) {text : List UInt8}
    (hlast : c.LastReply peer step.method step.url step.body w (.answered 404 text) later) :
    ∃ e, step.result = .error e := by
  obtain ⟨alarms, last, hrun, -⟩ := h
  obtain ⟨later, hlast⟩ := hlast.exists_under alarms
  rcases hlast.run_send with hreplied | ⟨a, -, _, hcalled⟩
  · obtain ⟨hresult, -⟩ := Prod.mk.inj (Except.ok.inj (hrun.symm.trans hreplied))
    obtain ⟨reason, hnotFound⟩ := (Client.told_outcome step.url _).notFound_iff.mpr ⟨text, rfl⟩
    exact ⟨_, hresult.trans hnotFound⟩
  · obtain ⟨hresult, -⟩ := Prod.mk.inj (Except.ok.inj (hrun.symm.trans hcalled))
    exact ⟨_, hresult⟩

end Log

theorem Client.timely {σ : Type} (c : Client) (peer : Peer σ) : Timely (c.transport peer) := by
  intro url w
  obtain ⟨fetched, after, _, hrun, hrepeated, -⟩ := c.exists_run_send peer .get url none w
  exact ⟨fetched, after, hrun, hrepeated.elapsed⟩

/-! ### Settling -/

/-- How an extractor may go: from a task and a world by steps to an outcome and a world. -/
abbrev Extraction (σ α : Type) :=
  String → World σ → List Step → Except Error α → World σ → Prop

/-- A description of an extractor: it goes in some way, and comes to what that way says. -/
structure Tells {σ α : Type} (t : Transport σ) (tells : Extraction σ α)
    (extract : String → Session σ α) : Prop where
  goes : ∀ id w, ∃ steps outcome after, tells id w steps outcome after
  run : ∀ {id w steps outcome after}, tells id w steps outcome after →
    Session.run (extract id) w = .ok (outcome, after)
  steps : ∀ {id w steps outcome after}, tells id w steps outcome after → Steps t steps w after
  gets : ∀ {id w steps outcome after}, tells id w steps outcome after →
    ∀ step ∈ steps, step.method = .get

namespace Waiter
variable {σ α : Type} (waiter : Waiter σ) (options : WaitOptions) (rounds : Nat)
  (tells : Extraction σ α)

/-- How tasks settle: they are awaited in order, each up to its end before the next, and the last
one is handed to the extractor. -/
inductive Settling : List String → World σ → List Step → Except Error α → World σ → Prop where
  | noTasks (w : World σ) :
    Settling [] w [] (.error (.decode "Mutation response listed no tasks")) w
  | waitFails {id : String} {later : List String} {w after : World σ} {steps : List Step}
    {e : Error} (awaited : Awaited options waiter rounds id w steps (.error e) after) :
    Settling (id :: later) w steps (.error e) after
  /-- A task that others follow failed. -/
  | earlierFailed {id : String} {later : List String} {w after : World σ} {steps : List Step}
    {task : Task} (earlier : later ≠ [])
    (awaited : Awaited options waiter rounds id w steps (.ok task) after)
    (failed : task.state = .error) :
    Settling (id :: later) w steps (.error (.taskFailed id task.errorDetail)) after
  /-- The last task failed, and its failure counts. -/
  | lastFailed {id : String} {w after : World σ} {steps : List Step} {task : Task}
    (awaited : Awaited options waiter rounds id w steps (.ok task) after)
    (failed : task.state = .error) (counts : options.throwOnFailure) :
    Settling [id] w steps (.error (.taskFailed id task.errorDetail)) after
  /-- The last task ended, and the result is taken from it. -/
  | extracted {id : String} {w mid after : World σ} {steps more : List Step} {task : Task}
    {outcome : Except Error α} (awaited : Awaited options waiter rounds id w steps (.ok task) mid)
    (stands : task.state = .error → options.throwOnFailure = false)
    (takes : tells id mid more outcome after) :
    Settling [id] w (steps ++ more) outcome after
  /-- A task that others follow finished. -/
  | goesOn {id : String} {later : List String} {w mid after : World σ} {steps more : List Step}
    {task : Task} {outcome : Except Error α} (earlier : later ≠ [])
    (awaited : Awaited options waiter rounds id w steps (.ok task) mid)
    (finished : task.state = .finished) (rest : Settling later mid more outcome after) :
    Settling (id :: later) w (steps ++ more) outcome after

variable {waiter options rounds tells}

theorem Settling.run {extract : String → Session σ α}
    (htells : Tells waiter.transport tells extract) {ids : List String} {w after : World σ}
    {steps : List Step} {outcome : Except Error α}
    (h : Settling waiter options rounds tells ids w steps outcome after) :
    Session.run (waiter.settleList rounds options extract ids) w = .ok (outcome, after) := by
  -- the options are those with their own choice
  change Session.run (waiter.settleList rounds (choosing options options.throwOnFailure) extract
    ids) w = _
  induction h with
  | noTasks w => exact Session.run_throw _ w
  | @waitFails id later w after steps e hawaited =>
    cases later with
    | nil => exact run_settleList_singleton hawaited.run _ extract
    | cons _ _ => exact run_settleList_cons hawaited.run _ extract (List.cons_ne_nil _ _)
  | earlierFailed hearlier hawaited hfailed =>
    rw [run_settleList_cons hawaited.run _ extract hearlier]
    exact if_pos hfailed
  | lastFailed hawaited hfailed hcounts =>
    rw [run_settleList_singleton hawaited.run _ extract]
    simp only [judged, if_pos (And.intro hfailed hcounts)]
  | @extracted id w mid after steps more task outcome hawaited hstands htakes =>
    have hjudged : ¬ (task.state = .error ∧ options.throwOnFailure) := by
      rintro ⟨hfailed, hcounts⟩
      cases hcounts.symm.trans (hstands hfailed)
    rw [run_settleList_singleton hawaited.run _ extract]
    simp only [judged, if_neg hjudged]
    exact htells.run htakes
  | goesOn hearlier hawaited hfinished _ ih =>
    rw [run_settleList_cons hawaited.run _ extract hearlier]
    refine Eq.trans (if_neg ?_) ih
    rw [hfinished]
    rintro ⟨⟩

variable (waiter options rounds) in
/-- Every run of tasks in order settles in a way, or stops at a wait that comes to nothing. -/
theorem settling_or_halted {extract : String → Session σ α}
    (htells : Tells waiter.transport tells extract) (ht : Timely waiter.transport)
    (ids : List String) (w : World σ) {latest : Nat}
    (hlatest : w.now + ids.length * options.timeout.toNanos ≤ latest) :
    (∃ steps outcome after, Settling waiter options rounds tells ids w steps outcome after) ∨
      ∃ why, Short options rounds latest why ∧
        Session.run (waiter.settleList rounds options extract ids) w = .error why := by
  induction ids generalizing w with
  | nil => exact .inl ⟨_, _, _, .noTasks w⟩
  | cons id ids ih =>
    rw [List.length_cons, Nat.succ_mul] at hlatest
    have hnow : w.now ≤ latest := by omega
    rcases awaited_or_halted id options waiter ht rounds hnow with
      ⟨steps, seen, mid, hawaited⟩ | ⟨why, hshort, hhalts⟩
    · have hmid := hawaited.le_limit
      cases seen with
      | error e => exact .inl ⟨_, _, _, .waitFails hawaited⟩
      | ok task =>
        have hended := hawaited.looks.ended task rfl
        by_cases hlast : ids = []
        · subst hlast
          by_cases hcounts : task.state = .error ∧ options.throwOnFailure
          · exact .inl ⟨_, _, _, .lastFailed hawaited hcounts.1 hcounts.2⟩
          · obtain ⟨more, outcome, after, htakes⟩ := htells.goes id mid
            refine .inl ⟨_, _, _, .extracted hawaited (fun hfailed => ?_) htakes⟩
            exact Bool.eq_false_iff.mpr fun h => hcounts ⟨hfailed, h⟩
        · rcases hended with hfinished | hfailed
          · rcases ih mid (by omega) with ⟨more, outcome, after, hsettles⟩ | ⟨why, hshort, hhalts⟩
            · exact .inl ⟨_, _, _, .goesOn hlast hawaited hfinished hsettles⟩
            · refine .inr ⟨why, hshort, ?_⟩
              have hcons := run_settleList_cons hawaited.run options.throwOnFailure extract hlast
              refine hcons.trans (Eq.trans (if_neg ?_) hhalts)
              rw [hfinished]
              exact nofun
          · exact .inl ⟨_, _, _, .earlierFailed hlast hawaited hfailed⟩
    · exact .inr ⟨why, hshort, run_settleList_of_halt ids (hhalts options.throwOnFailure) extract⟩

variable (waiter options rounds) in
/-- Tasks that were awaited one after the other and seen finished. -/
inductive Finished : List String → World σ → List Step → World σ → Prop where
  | nil (w : World σ) : Finished [] w [] w
  | cons {id : String} {ids : List String} {w mid after : World σ} {steps more : List Step}
    {task : Task} (awaited : Awaited options waiter rounds id w steps (.ok task) mid)
    (finished : task.state = .finished) (rest : Finished ids mid more after) :
    Finished (id :: ids) w (steps ++ more) after

variable (waiter options rounds) in
/-- Tasks that were awaited in order up to the last one, which is the one to take the result from:
all others finished, and it ended. -/
inductive Settled : List String → World σ → List Step → String → World σ → Prop where
  | last {id : String} {w after : World σ} {steps : List Step} {task : Task}
    (awaited : Awaited options waiter rounds id w steps (.ok task) after)
    (stands : task.state = .error → options.throwOnFailure = false) :
    Settled [id] w steps id after
  | next {id last : String} {later : List String} {w mid after : World σ} {steps more : List Step}
    {task : Task} (awaited : Awaited options waiter rounds id w steps (.ok task) mid)
    (finished : task.state = .finished) (rest : Settled later mid more last after) :
    Settled (id :: later) w (steps ++ more) last after

theorem Settled.ne_nil {ids : List String} {w after : World σ} {steps : List Step} {last : String}
    (h : Settled waiter options rounds ids w steps last after) : ids ≠ [] := by
  cases h with
  | last => exact List.cons_ne_nil _ _
  | next => exact List.cons_ne_nil _ _

theorem settled_iff {ids : List String} {w after : World σ} {steps : List Step} {last : String} :
    Settled waiter options rounds ids w steps last after ↔
      ∃ passed first looks before task, ids = passed ++ [last] ∧ steps = first ++ looks ∧
        Finished waiter options rounds passed w first before ∧
        Awaited options waiter rounds last before looks (.ok task) after ∧
        (task.state = .error → options.throwOnFailure = false) := by
  constructor
  · intro h
    induction h with
    | last hawaited hstands => exact ⟨[], _, _, _, _, rfl, rfl, .nil _, hawaited, hstands⟩
    | next hawaited hfinished _ ih =>
      obtain ⟨passed, first, looks, before, task, rfl, rfl, hpassed, hrest⟩ := ih
      exact ⟨_ :: passed, _, looks, before, task, rfl, (List.append_assoc ..).symm,
        .cons hawaited hfinished hpassed, hrest⟩
  · rintro ⟨passed, first, looks, before, task, rfl, rfl, hpassed, hawaited, hstands⟩
    induction hpassed with
    | nil => exact .last hawaited hstands
    | cons hfirst hfinished _ ih =>
      rw [List.append_assoc]
      exact .next hfirst hfinished (ih hawaited)

/-- A look at one of several tasks. -/
def LooksAt (waiter : Waiter σ) (ids : List String) (step : Step) : Prop :=
  ∃ id ∈ ids, ∃ url result, Endpoint.task waiter.base waiter.version id = .ok url ∧
    step = .get url result

theorem LooksAt.mono {ids more : List String} (hsub : ids ⊆ more) {step : Step}
    (h : waiter.LooksAt ids step) : waiter.LooksAt more step := by
  obtain ⟨id, hmem, hlook⟩ := h
  exact ⟨id, hsub hmem, hlook⟩

/-- A wait for the first of several tasks looks at them. -/
theorem Awaited.looksAt {id : String} {later : List String} {w after : World σ}
    {steps : List Step} {seen : Except Error Task}
    (h : Awaited options waiter rounds id w steps seen after) :
    ∀ step ∈ steps, waiter.LooksAt (id :: later) step := fun step hstep =>
  ⟨id, List.mem_cons_self, h.looks.eq_get step hstep⟩

/-- No look of a wait that saw its task fails. -/
theorem Awaited.result_ne_error {id : String} {w after : World σ} {steps : List Step}
    {task : Task} (h : Awaited options waiter rounds id w steps (.ok task) after) :
    ∀ step ∈ steps, ∀ e, step.result ≠ .error e := fun step hstep e he => by
  cases h.looks.eq_error step hstep e he

/-- Tasks settle by looks at them that do not fail. -/
theorem Settled.looks {ids : List String} {w after : World σ} {steps : List Step} {last : String}
    (h : Settled waiter options rounds ids w steps last after) :
    ∀ step ∈ steps, waiter.LooksAt ids step ∧ ∀ e, step.result ≠ .error e := by
  induction h with
  | last hawaited _ =>
    exact fun step hstep => ⟨hawaited.looksAt step hstep, hawaited.result_ne_error step hstep⟩
  | @next id _ later _ _ _ _ _ _ hawaited _ _ ih =>
    refine List.forall_mem_append.mpr ⟨fun step hstep => ?_, fun step hstep => ?_⟩
    · exact ⟨hawaited.looksAt step hstep, hawaited.result_ne_error step hstep⟩
    · exact ⟨(ih step hstep).1.mono (List.subset_cons_self id later), (ih step hstep).2⟩

theorem Settled.steps {ids : List String} {w after : World σ} {steps : List Step} {last : String}
    (h : Settled waiter options rounds ids w steps last after) :
    Steps waiter.transport steps w after := by
  induction h with
  | last hawaited _ => exact hawaited.steps
  | next hawaited _ _ ih => exact hawaited.steps.append ih

/-- From settled tasks the result is taken. -/
theorem Settled.settling {ids : List String} {w mid after : World σ} {steps more : List Step}
    {last : String} {outcome : Except Error α}
    (h : Settled waiter options rounds ids w steps last mid)
    (htakes : tells last mid more outcome after) :
    Settling waiter options rounds tells ids w (steps ++ more) outcome after := by
  induction h with
  | last hawaited hstands => exact .extracted hawaited hstands htakes
  | next hawaited hfinished hrest ih =>
    rw [List.append_assoc]
    exact .goesOn hrest.ne_nil hawaited hfinished (ih htakes)

/-- **Tasks settle, and then the result is taken, or it comes to an error at once**: the one of the
look that fails, if one does. -/
theorem Settling.stops_or_settled {ids : List String} {w after : World σ} {steps : List Step}
    {outcome : Except Error α} (h : Settling waiter options rounds tells ids w steps outcome after) :
    (∃ e, outcome = .error e ∧ ∀ step ∈ steps, waiter.LooksAt ids step ∧
      ∀ e', step.result = .error e' → e' = e) ∨
    ∃ first more last mid, steps = first ++ more ∧
      Settled waiter options rounds ids w first last mid ∧ tells last mid more outcome after := by
  induction h with
  | noTasks => exact .inl ⟨_, rfl, fun _ h => absurd h List.not_mem_nil⟩
  | waitFails hawaited =>
    refine .inl ⟨_, rfl, fun step hstep => ⟨hawaited.looksAt step hstep, fun e he => ?_⟩⟩
    exact (Except.error.inj (hawaited.looks.eq_error step hstep e he)).symm
  | earlierFailed _ hawaited _ =>
    exact .inl ⟨_, rfl, fun step hstep => ⟨hawaited.looksAt step hstep,
      fun e he => absurd he (hawaited.result_ne_error step hstep e)⟩⟩
  | lastFailed hawaited _ _ =>
    exact .inl ⟨_, rfl, fun step hstep => ⟨hawaited.looksAt step hstep,
      fun e he => absurd he (hawaited.result_ne_error step hstep e)⟩⟩
  | extracted hawaited hstands htakes =>
    exact .inr ⟨_, _, _, _, rfl, .last hawaited hstands, htakes⟩
  | @goesOn id later _ _ _ _ _ _ _ _ hawaited hfinished _ ih =>
    rcases ih with ⟨e, rfl, hlooks⟩ | ⟨first, more, last, mid, rfl, hsettled, htakes⟩
    · refine .inl ⟨e, rfl, List.forall_mem_append.mpr ⟨fun step hstep => ?_, fun step hstep => ?_⟩⟩
      · exact ⟨hawaited.looksAt step hstep,
          fun e he => absurd he (hawaited.result_ne_error step hstep e)⟩
      · exact ⟨(hlooks step hstep).1.mono (List.subset_cons_self id later), (hlooks step hstep).2⟩
    · exact .inr ⟨_, more, last, mid, (List.append_assoc ..).symm,
        .next hawaited hfinished hsettled, htakes⟩

/-- **Tasks settle well if all but the last one finish, the last one ends, and the extractor comes
to a result.** -/
theorem settling_ok_iff {ids : List String} {w after : World σ} {steps : List Step} {a : α} :
    Settling waiter options rounds tells ids w steps (.ok a) after ↔
      ∃ passed last first looks more before mid task, ids = passed ++ [last] ∧
        steps = first ++ (looks ++ more) ∧
        Finished waiter options rounds passed w first before ∧
        Awaited options waiter rounds last before looks (.ok task) mid ∧
        (task.state = .error → options.throwOnFailure = false) ∧
        tells last mid more (.ok a) after := by
  constructor
  · intro h
    rcases h.stops_or_settled with ⟨e, he, -⟩ | ⟨_, more, last, mid, rfl, hsettled, htakes⟩
    · cases he
    · obtain ⟨passed, first, looks, before, task, rfl, rfl, hpassed, hawaited, hstands⟩ :=
        settled_iff.mp hsettled
      exact ⟨passed, last, first, looks, more, before, mid, task, rfl, List.append_assoc ..,
        hpassed, hawaited, hstands, htakes⟩
  · rintro ⟨passed, last, first, looks, more, before, mid, task, rfl, rfl, hpassed, hawaited,
      hstands, htakes⟩
    rw [← List.append_assoc]
    exact Settled.settling (settled_iff.mpr ⟨_, _, _, _, _, rfl, rfl, hpassed, hawaited, hstands⟩)
      htakes

theorem Settling.steps {extract : String → Session σ α}
    (htells : Tells waiter.transport tells extract) {ids : List String} {w after : World σ}
    {steps : List Step} {outcome : Except Error α}
    (h : Settling waiter options rounds tells ids w steps outcome after) :
    Steps waiter.transport steps w after := by
  induction h with
  | noTasks w => exact .done w
  | waitFails hawaited => exact hawaited.steps
  | earlierFailed _ hawaited _ => exact hawaited.steps
  | lastFailed hawaited _ _ => exact hawaited.steps
  | extracted hawaited _ htakes => exact hawaited.steps.append (htells.steps htakes)
  | goesOn _ hawaited _ _ ih => exact hawaited.steps.append ih

/-- Settling sends nothing but GETs. -/
theorem Settling.gets {extract : String → Session σ α}
    (htells : Tells waiter.transport tells extract) {ids : List String} {w after : World σ}
    {steps : List Step} {outcome : Except Error α}
    (h : Settling waiter options rounds tells ids w steps outcome after) :
    ∀ step ∈ steps, step.method = .get := by
  induction h with
  | noTasks => exact fun _ h => absurd h List.not_mem_nil
  | waitFails hawaited => exact hawaited.looks.gets
  | earlierFailed _ hawaited _ => exact hawaited.looks.gets
  | lastFailed hawaited _ _ => exact hawaited.looks.gets
  | extracted hawaited _ htakes =>
    exact List.forall_mem_append.mpr ⟨hawaited.looks.gets, htells.gets htakes⟩
  | goesOn _ hawaited _ _ ih => exact List.forall_mem_append.mpr ⟨hawaited.looks.gets, ih⟩

end Waiter

/-! ### Mutations -/

namespace ResourceClient
variable {kind : IdKind} {α β σ : Type} (c : ResourceClient kind α) (peer : Peer σ) (rounds : Nat)
  (method : Method) (url : Except Error Url) (body : Option Json) (wait : Option WaitOptions)
  (tells : Extraction σ β)

/-- The answer to a mutation that was sent from one world to another. -/
def Answered (u : Url) (w : World σ) (answer : Except Error Json) (after : World σ) : Prop :=
  Session.run ((c.transport peer).send method u body) w = .ok (answer, after)

/-- How a valid mutation may go: it is sent, its answer is read, and if it is waited for its tasks
settle. It stops where something fails. -/
inductive Mutation (w : World σ) : List Step → Except Error (Outcome β) → World σ → Prop where
  | nowhere {e : Error} (noUrl : url = .error e) : Mutation w [] (.error e) w
  | sendFails {u : Url} {e : Error} {after : World σ} (here : url = .ok u)
    (answered : c.Answered peer method body u w (.error e) after) :
    Mutation w [⟨method, u, body, .error e⟩] (.error e) after
  /-- The answer does not tell tasks. -/
  | unread {u : Url} {answer : Json} {e : Error} {after : World σ} (here : url = .ok u)
    (answered : c.Answered peer method body u w (.ok answer) after)
    (reads : TaskList.ofBody answer = .error e) :
    Mutation w [⟨method, u, body, .ok answer⟩] (.error e) after
  /-- It is not waited for. -/
  | submitted {u : Url} {answer : Json} {tasks : TaskList} {after : World σ} (here : url = .ok u)
    (answered : c.Answered peer method body u w (.ok answer) after)
    (reads : TaskList.ofBody answer = .ok tasks) (handed : wait = none) :
    Mutation w [⟨method, u, body, .ok answer⟩] (.ok (.submitted tasks)) after
  /-- It is waited for. -/
  | settles {u : Url} {answer : Json} {tasks : TaskList} {options : WaitOptions}
    {mid after : World σ} {more : List Step} {outcome : Except Error β} (here : url = .ok u)
    (answered : c.Answered peer method body u w (.ok answer) mid)
    (reads : TaskList.ofBody answer = .ok tasks) (waits : wait = some options)
    (settling : Waiter.Settling (c.waiter peer) options rounds tells tasks.tasks mid more outcome
      after) :
    Mutation w (⟨method, u, body, .ok answer⟩ :: more) (outcome.map .completed) after

section Run
variable {c peer rounds method url body wait tells}

theorem run_settle_some (waiter : Waiter σ) (tasks : TaskList) (options : WaitOptions)
    (extract : String → Session σ β) (w : World σ) :
    Session.run (waiter.settle rounds tasks (some options) extract) w =
      (Session.run (waiter.settleList rounds options extract tasks.tasks) w).map
        fun (outcome, after) => (outcome.map .completed, after) :=
  Session.run_bind_pure _ _ _

/-- Once a mutation was answered, all depends on the answer. -/
theorem run_mutate_of_answered {u : Url} (here : url = .ok u) {answer : Except Error Json}
    {w mid : World σ} (answered : c.Answered peer method body u w answer mid)
    (extract : String → Session σ β) :
    Session.run (c.mutate peer rounds [] method url body wait extract) w =
      match answer.bind TaskList.ofBody with
      | .error e => .ok (.error e, mid)
      | .ok tasks => Session.run ((c.waiter peer).settle rounds tasks wait extract) mid := by
  have hsubmit : Session.run (c.client.submit peer method u body) w =
      .ok (answer.bind TaskList.ofBody, mid) := by
    unfold Client.submit
    cases answer with
    | error e => exact Session.run_bind_error answered
    | ok v => exact Session.run_bind_ok answered
  have hmutate : Session.run (c.mutate peer rounds [] method url body wait extract) w =
      Session.run (c.client.submit peer method u body >>= fun tasks =>
        (c.waiter peer).settle rounds tasks wait extract) w := by
    subst here
    rfl
  rw [hmutate]
  cases hread : answer.bind TaskList.ofBody with
  | error e => exact Session.run_bind_error (hsubmit.trans (by rw [hread]))
  | ok tasks => exact Session.run_bind_ok (hsubmit.trans (by rw [hread]))

theorem Mutation.run {extract : String → Session σ β}
    (htells : Tells (c.transport peer) tells extract) {w after : World σ} {steps : List Step}
    {outcome : Except Error (Outcome β)}
    (h : Mutation c peer rounds method url body wait tells w steps outcome after) :
    Session.run (c.mutate peer rounds [] method url body wait extract) w =
      .ok (outcome, after) := by
  cases h with
  | nowhere noUrl =>
    subst noUrl
    rfl
  | sendFails here answered => exact run_mutate_of_answered here answered extract
  | unread here answered reads =>
    rw [run_mutate_of_answered here answered extract, Except.bind, reads]
  | submitted here answered reads handed =>
    rw [run_mutate_of_answered here answered extract, Except.bind, reads, handed]
    rfl
  | settles here answered reads waits settling =>
    rw [run_mutate_of_answered here answered extract, Except.bind, reads, waits]
    dsimp only
    rw [run_settle_some, settling.run htells]
    rfl

variable (rounds method url body wait) in
/-- A mutation goes in a way that its description tells, or one of its waits comes to nothing. -/
theorem mutation_or_halted {extract : String → Session σ β}
    (htells : Tells (c.transport peer) tells extract) (w : World σ) :
    (∃ steps outcome after,
      Mutation c peer rounds method url body wait tells w steps outcome after) ∨
    ∃ why, Session.run (c.mutate peer rounds [] method url body wait extract) w = .error why ∧
      ∃ u answer tasks options mid, url = .ok u ∧
        c.Answered peer method body u w (.ok answer) mid ∧ TaskList.ofBody answer = .ok tasks ∧
        wait = some options ∧ Waiter.Short options rounds
          (mid.now + tasks.tasks.length * options.timeout.toNanos) why := by
  cases hurl : url with
  | error e => exact .inl ⟨_, _, _, .nowhere rfl⟩
  | ok u =>
    obtain ⟨answer, mid, -, hsend, -⟩ := c.client.exists_run_send peer method u body w
    have hanswered : c.Answered peer method body u w answer mid := hsend
    cases answer with
    | error e => exact .inl ⟨_, _, _, .sendFails rfl hanswered⟩
    | ok answer =>
      cases hreads : TaskList.ofBody answer with
      | error e => exact .inl ⟨_, _, _, .unread rfl hanswered hreads⟩
      | ok tasks =>
        cases hwait : wait with
        | none => exact .inl ⟨_, _, _, .submitted rfl hanswered hreads rfl⟩
        | some options =>
          rcases Waiter.settling_or_halted (c.waiter peer) options rounds htells
            (c.client.timely peer) tasks.tasks mid le_rfl with
            ⟨more, outcome, after, hsettling⟩ | ⟨why, hshort, hhalts⟩
          · exact .inl ⟨_, _, _, .settles rfl hanswered hreads rfl hsettling⟩
          · refine .inr ⟨why, ?_, u, answer, tasks, options, mid, rfl, hanswered, hreads, rfl,
              hshort⟩
            rw [run_mutate_of_answered rfl hanswered extract, Except.bind, hreads]
            dsimp only
            rw [run_settle_some, hhalts]
            rfl

/-- **A mutation comes to what its steps say and to nothing else.** -/
theorem run_mutate_iff {extract : String → Session σ β}
    (htells : Tells (c.transport peer) tells extract) (w after : World σ)
    (outcome : Except Error (Outcome β)) :
    Session.run (c.mutate peer rounds [] method url body wait extract) w = .ok (outcome, after) ↔
      ∃ steps, Mutation c peer rounds method url body wait tells w steps outcome after := by
  constructor
  · intro hrun
    rcases mutation_or_halted rounds method url body wait htells w with
      ⟨steps, outcome', after', hgoes⟩ | ⟨why, hhalts, -⟩
    · obtain ⟨rfl, rfl⟩ := Prod.mk.inj (Except.ok.inj ((hgoes.run htells).symm.trans hrun))
      exact ⟨steps, hgoes⟩
    · cases hhalts.symm.trans hrun
  · rintro ⟨steps, hgoes⟩
    exact hgoes.run htells

theorem Answered.taken {u : Url} {w after : World σ} {answer : Except Error Json}
    (h : c.Answered peer method body u w answer after) :
    (⟨method, u, body, answer⟩ : Step).Taken (c.transport peer) w after := by
  refine .of_run h ?_
  obtain ⟨_, _, _, hrun, hrepeated, -⟩ := c.client.exists_run_send peer method u body w
  obtain ⟨-, rfl⟩ := Prod.mk.inj (Except.ok.inj (h.symm.trans hrun))
  exact hrepeated.elapsed.alarms_eq

/-- The steps of a mutation: it is sent first, and all that follows is GETs. -/
theorem Mutation.steps {extract : String → Session σ β}
    (htells : Tells (c.transport peer) tells extract) {w after : World σ} {steps : List Step}
    {outcome : Except Error (Outcome β)}
    (h : Mutation c peer rounds method url body wait tells w steps outcome after) :
    Steps (c.transport peer) steps w after ∧
      (steps = [] ∨ ∃ u answer more, url = .ok u ∧ steps = ⟨method, u, body, answer⟩ :: more ∧
        ∀ step ∈ more, step.method = .get) := by
  have hnone : ∀ step ∈ ([] : List Step), step.method = .get :=
    fun _ h => absurd h List.not_mem_nil
  cases h with
  | nowhere => exact ⟨.done w, .inl rfl⟩
  | sendFails here answered =>
    exact ⟨.single answered.taken, .inr ⟨_, _, [], here, rfl, hnone⟩⟩
  | unread here answered _ =>
    exact ⟨.single answered.taken, .inr ⟨_, _, [], here, rfl, hnone⟩⟩
  | submitted here answered _ _ =>
    exact ⟨.single answered.taken, .inr ⟨_, _, [], here, rfl, hnone⟩⟩
  | settles here answered _ _ settling =>
    exact ⟨.next answered.taken (settling.steps htells),
      .inr ⟨_, _, _, here, rfl, settling.gets htells⟩⟩

/-- **The log of a mutation tells its steps**, and a mutation that may not be sent twice is sent
once at most. -/
theorem Mutation.logged {extract : String → Session σ β}
    (htells : Tells (c.transport peer) tells extract) {w after : World σ} {steps : List Step}
    {outcome : Except Error (Outcome β)}
    (h : Mutation c peer rounds method url body wait tells w steps outcome after) :
    ∃ requests, Logged c.client steps requests ∧
      after.sent.map Prod.snd = w.sent.map Prod.snd ++ requests ∧
      (method.isIdempotent = false → requests.countP (·.method = method) ≤ 1) := by
  obtain ⟨hsteps, hshape⟩ := h.steps htells
  obtain ⟨requests, hlogged, hsent⟩ := hsteps.logged
  refine ⟨requests, hlogged, hsent, fun honce => ?_⟩
  have hget : Method.get ≠ method := by
    rintro rfl
    cases honce
  rcases hshape with rfl | ⟨u, answer, more, -, rfl, hgets⟩
  · cases hlogged
    exact Nat.zero_le _
  · cases hlogged with
    | @cons _ _ copies later hcopies hrest =>
      have hlater : later.countP (·.method = method) = 0 := by
        rw [List.countP_eq_zero]
        intro r hr
        have hother : ∀ step ∈ more, step.method ≠ method := fun step hstep => by
          rw [hgets step hstep]
          exact hget
        simpa using hrest.ne_of_forall_ne hother r hr
      rw [List.countP_append, hlater, Nat.add_zero]
      refine List.countP_le_length.trans ?_
      rw [List.length_replicate]
      exact hcopies.once honce

end Run

end ResourceClient

end CloudApi
