import CloudApi.Proofs.Steps
import CloudApi.Proofs.Task.Wait

/-! Waits over any transport, look by look.

A wait for a task takes steps of one kind: looks that show the task going on, up to one that shows
it ended or fails, or up to the moment the wait is given up (`Looks`). Over a transport that comes
back from every GET with time going on a wait is told by its looks, unless its rounds or its clock
are too short (`awaited_or_halted`). Whether a failed task fails the wait matters for nothing but
its outcome (`run_waitForTask_eq`), so that the waits of a mutation are the same for either
choice. -/
namespace CloudApi

namespace Waiter
variable {σ : Type} {t : Transport σ} (base : Url) (version id : String) (options : WaitOptions)

section Failed
variable (limit : Nat)

/-! ### Tasks that failed -/

/-- The options with the choice whether a failed task fails the wait. -/
def choosing (options : WaitOptions) (throws : Bool) : WaitOptions :=
  { options with throwOnFailure := throws }

/-- What a wait makes of a task it was shown, if a failed task fails it. -/
def judged (id : String) (throws : Bool) : Except Error Task → Except Error Task
  | .ok t => if t.state = .error ∧ throws then .error (.taskFailed id t.errorDetail) else .ok t
  | .error e => .error e

theorem verdict_eq (t : Task) :
    verdict id options t =
      (verdict id (choosing options false) t).map (judged id options.throwOnFailure) := by
  unfold verdict
  cases hstate : t.state <;> simp [choosing, judged, hstate]
  split <;> rfl

theorem run_poll_eq (waiter : Waiter σ) (rounds : Nat) (last : Option TaskState) (s : World σ) :
    Session.run (waiter.poll id options limit rounds last) s =
      (Session.run (waiter.poll id (choosing options false) limit rounds last) s).map
        fun (seen, after) => (judged id options.throwOnFailure seen, after) := by
  -- a part that both waits have in common leaves only what follows it
  have hcommon {β : Type} (part : Session σ β) {f g : β → Session σ Task}
      (hrest : ∀ b s, Session.run (f b) s = (Session.run (g b) s).map
        fun (seen, after) => (judged id options.throwOnFailure seen, after)) (s : World σ) :
      Session.run (part >>= f) s = (Session.run (part >>= g) s).map
        fun (seen, after) => (judged id options.throwOnFailure seen, after) := by
    rw [Session.run_bind, Session.run_bind]
    rcases Session.run part s with why | ⟨e | b, after⟩
    · rfl
    · rfl
    · exact hrest b after
  induction rounds generalizing last s with
  | zero => rfl
  | succ rounds ih =>
    rw [run_poll_succ, run_poll_succ]
    refine hcommon _ (fun t s => ?_) s
    rw [verdict_eq]
    cases verdict id (choosing options false) t with
    | some outcome => rfl
    | none =>
      refine hcommon _ (fun now s => ?_) s
      rw [Session.run_ite, Session.run_ite]
      split
      · rfl
      · exact hcommon _ (fun bound s => hcommon _ (fun _ s => ih _ s) s) s

/-- **Whether a failed task fails a wait changes nothing but the outcome.** -/
theorem run_waitForTask_eq (waiter : Waiter σ) (rounds : Nat) (s : World σ) :
    Session.run (waiter.waitForTask rounds id options) s =
      (Session.run (waiter.waitForTask rounds id (choosing options false)) s).map
        fun (seen, after) => (judged id options.throwOnFailure seen, after) := by
  rw [run_waitForTask, run_waitForTask]
  split
  · exact run_poll_eq id options _ waiter rounds none s
  · rfl

end Failed

/-! ### Looks -/

/-- The steps of a wait and what it saw: looks that show the task going on up to the one that
decides. -/
inductive Looks : List Step → Except Error Task → Prop where
  /-- The wait is called off or over, or there is no URL to look at. -/
  | stops {e : Error} (reason : e = .cancelled id ∨ (∃ last, e = timedOut id last) ∨
      Endpoint.task base version id = .error e) : Looks [] (.error e)
  /-- A look fails. -/
  | fails {url : Url} {result : Except Error Json} {e : Error}
      (here : Endpoint.task base version id = .ok url)
      (shows : result.bind (Envelope.whole Task.record.decode) = .error e) :
      Looks [.get url result] (.error e)
  /-- A look shows that the task has ended. -/
  | ends {url : Url} {result : Except Error Json} {task : Task}
      (here : Endpoint.task base version id = .ok url)
      (shows : result.bind (Envelope.whole Task.record.decode) = .ok task)
      (ended : task.state = .finished ∨ task.state = .error) : Looks [.get url result] (.ok task)
  /-- A look shows that the task goes on. -/
  | goesOn {url : Url} {result : Except Error Json} {task : Task} {steps : List Step}
      {seen : Except Error Task} (here : Endpoint.task base version id = .ok url)
      (shows : result.bind (Envelope.whole Task.record.decode) = .ok task)
      (going : task.state.isTerminal = false) (later : Looks steps seen) :
      Looks (.get url result :: steps) seen

variable {base version id} in
/-- A wait asks for nothing but its task. -/
theorem Looks.eq_get {steps : List Step} {seen : Except Error Task}
    (h : Looks base version id steps seen) : ∀ step ∈ steps, ∃ url result,
      Endpoint.task base version id = .ok url ∧ step = .get url result := by
  induction h with
  | stops => exact fun _ h => absurd h List.not_mem_nil
  | fails here _ => exact List.forall_mem_singleton.mpr ⟨_, _, here, rfl⟩
  | ends here _ _ => exact List.forall_mem_singleton.mpr ⟨_, _, here, rfl⟩
  | goesOn here _ _ _ ih => exact List.forall_mem_cons.mpr ⟨⟨_, _, here, rfl⟩, ih⟩

variable {base version id} in
theorem Looks.gets {steps : List Step} {seen : Except Error Task}
    (h : Looks base version id steps seen) : ∀ step ∈ steps, step.method = .get := by
  intro step hstep
  obtain ⟨_, _, -, rfl⟩ := h.eq_get step hstep
  rfl

variable {base version id} in
/-- A look that comes to an error fails the wait with it. -/
theorem Looks.eq_error {steps : List Step} {seen : Except Error Task}
    (h : Looks base version id steps seen) :
    ∀ step ∈ steps, ∀ e, step.result = .error e → seen = .error e := by
  induction h with
  | stops => exact fun _ h => absurd h List.not_mem_nil
  | @fails _ result _ _ shows =>
    refine List.forall_mem_singleton.mpr fun e he => ?_
    obtain rfl : result = .error e := he
    exact shows.symm
  | @ends _ result _ _ shows _ =>
    refine List.forall_mem_singleton.mpr fun e he => ?_
    obtain rfl : result = .error e := he
    cases shows
  | @goesOn _ result _ _ _ _ shows _ _ ih =>
    refine List.forall_mem_cons.mpr ⟨fun e he => ?_, ih⟩
    obtain rfl : result = .error e := he
    cases shows

variable {base version id} in
/-- A wait that saw a task saw it ended. -/
theorem Looks.ended {steps : List Step}
    {seen : Except Error Task} (h : Looks base version id steps seen) :
    ∀ task, seen = .ok task → task.state = .finished ∨ task.state = .error := by
  induction h with
  | stops => exact fun _ h => by cases h
  | fails => exact fun _ h => by cases h
  | ends _ _ hended => exact fun _ h => Except.ok.inj h ▸ hended
  | goesOn _ _ _ _ ih => exact ih

/-! ### One round -/

section Round
variable (limit : Nat)

/-- A look of a wait is a step, unless the wait is called off or there is nothing to look at. -/
theorem exists_run_look_step (ht : Timely t) (last : Option TaskState) (s : World σ)
    (hnow : s.now ≤ limit) :
    ∃ seen after, Session.run (bounded id limit options last (getTask ⟨t, base, version⟩ id)) s =
        .ok (seen, after) ∧ s.now ≤ after.now ∧ after.now ≤ limit ∧
      ((∃ e, seen = .error e ∧ Looks base version id [] (.error e) ∧ after = s) ∨
        ∃ url result, Endpoint.task base version id = .ok url ∧
          (Step.get url result).Taken t s after ∧
          seen = result.bind (Envelope.whole Task.record.decode)) := by
  rw [run_bounded]
  split
  · exact ⟨_, s, rfl, le_rfl, hnow, .inl ⟨_, rfl, .stops (.inl rfl), rfl⟩⟩
  let inside : World σ := { s with alarms := alarms id limit options last }
  rw [Session.run_within]
  cases hurl : Endpoint.task base version id with
  | error e =>
    have hlook : Session.run (getTask ⟨t, base, version⟩ id) inside = .ok (.error e, inside) :=
      (Fetch.nowhere hurl).run
    rw [hlook]
    exact ⟨_, s, rfl, le_rfl, hnow, .inl ⟨e, rfl, .stops (.inr (.inr hurl)), rfl⟩⟩
  | ok url =>
    obtain ⟨fetched, after, hget, helapsed⟩ := ht url inside
    have hlook : Session.run (getTask ⟨t, base, version⟩ id) inside =
        .ok (fetched.bind (Envelope.whole Task.record.decode), after) :=
      (Fetch.answered hurl hget).run
    rw [hlook]
    have hlimit := helapsed.now_le ⟨limit, timedOut id last⟩ List.mem_cons_self hnow
    exact ⟨_, _, rfl, helapsed.le, hlimit, .inr ⟨url, fetched, rfl, ⟨_, after, hget, rfl⟩, rfl⟩⟩

theorem error_of_mem_alarms {limit : Nat} {last : Option TaskState} {a : Alarm}
    (h : a ∈ alarms id limit options last) :
    a.error = .cancelled id ∨ ∃ last, a.error = timedOut id last := by
  rcases List.mem_cons.mp h with rfl | h
  · exact .inr ⟨last, rfl⟩
  · split at h
    · rw [List.mem_singleton.mp h]
      exact .inl rfl
    · cases h

/-- The pause of a wait passes in full, or the wait is over. -/
theorem exists_run_pause_step (bound span : Nat) (last : Option TaskState) (s : World σ) :
    ∃ outcome now, Session.run (bounded id bound options last (Session.pass span)) s =
        .ok (outcome, { s with now }) ∧ s.now ≤ now ∧ now ≤ s.now + span ∧
      (outcome = .ok () → now = s.now + span) ∧
      ∀ e, outcome = .error e → Looks base version id [] (.error e) := by
  rw [run_bounded]
  split
  · refine ⟨_, s.now, rfl, le_rfl, Nat.le_add_right _ _, nofun, fun e he => ?_⟩
    exact .stops (.inl (Except.error.inj he).symm)
  rw [Session.run_within, Session.run_pass]
  rcases Alarm.first?_cases (alarms id bound options last) (s.now + span) with
    ⟨hnone, -⟩ | ⟨a, hmem, hsome, hlt, -⟩
  · rw [hnone]
    exact ⟨_, _, rfl, Nat.le_add_right _ _, le_rfl, fun _ => rfl, nofun⟩
  · rw [hsome]
    refine ⟨_, _, rfl, Nat.le_max_left _ _, Nat.max_le.mpr ⟨Nat.le_add_right _ _, hlt.le⟩, nofun,
      fun e he => ?_⟩
    obtain rfl := Except.error.inj he
    rcases error_of_mem_alarms id options hmem with h | h
    · exact .stops (.inl h)
    · exact .stops (.inr (.inl h))

/-- What a look that is not to fail its wait decides. -/
theorem verdict_choosing (task : Task) :
    verdict id (choosing options false) task =
      if task.state.isTerminal then some (.ok task) else none := by
  unfold verdict
  cases task.state <;> rfl

theorem ended_of_isTerminal {task : Task} (h : task.state.isTerminal) :
    task.state = .finished ∨ task.state = .error := by
  revert h
  cases task.state <;> simp [TaskState.isTerminal]

/-- The later a pause begins, the shorter it is. -/
theorem pause_antitone {now later : Nat} (h : now ≤ later) :
    pause later limit options ≤ pause now limit options := by
  unfold pause
  omega

/-- A round of a wait ends it, shows the task going on, or leaves the clock. -/
theorem run_round (ht : Timely t) (rounds : Nat) (last : Option TaskState) (s : World σ)
    (hnow : s.now ≤ limit) :
    let poll := poll ⟨t, base, version⟩ id (choosing options false) limit
    (∃ seen steps after, Session.run (poll (rounds + 1) last) s = .ok (seen, after) ∧
      Looks base version id steps seen ∧ Steps t steps s after ∧ s.now ≤ after.now ∧
      after.now ≤ limit) ∨
    (∃ url result task mid, Session.run (poll (rounds + 1) last) s =
        Session.run (poll rounds (some task.state)) mid ∧
      Endpoint.task base version id = .ok url ∧
      result.bind (Envelope.whole Task.record.decode) = .ok task ∧
      task.state.isTerminal = false ∧ Steps t [.get url result] s mid ∧ s.now < limit ∧
      mid.now ≤ limit ∧ min (s.now + options.pollInterval.toNanos) limit ≤ mid.now) ∨
    Session.run (poll (rounds + 1) last) s = .error .overflow ∧
      Session.lastMoment < limit + pause s.now limit options := by
  intro poll
  obtain ⟨seen, looked, hlook, hle, hlimit, hstep⟩ :=
    exists_run_look_step base version id (choosing options false) limit ht last s hnow
  show _ ∨ _ ∨ _
  rw [run_poll_succ]
  rcases hstep with ⟨e, rfl, hlooks, rfl⟩ | ⟨url, result, hurl, htaken, hseen⟩
  · rw [Session.run_bind_error hlook]
    exact .inl ⟨_, [], _, rfl, hlooks, .done _, le_rfl, hnow⟩
  cases seen with
  | error e =>
    rw [Session.run_bind_error hlook]
    exact .inl ⟨_, _, looked, rfl, .fails hurl hseen.symm, .single htaken, hle, hlimit⟩
  | ok task =>
    rw [Session.run_bind_ok hlook, verdict_choosing]
    by_cases hended : task.state.isTerminal
    · rw [if_pos hended]
      exact .inl ⟨_, _, looked, rfl, .ends hurl hseen.symm (ended_of_isTerminal hended),
        .single htaken, hle, hlimit⟩
    rw [if_neg hended]
    have hgoing : task.state.isTerminal = false := Bool.eq_false_iff.mpr hended
    have hover {e : Error} (hstop : Looks base version id [] (.error e)) :
        Looks base version id [.get url result] (.error e) := .goesOn hurl hseen.symm hgoing hstop
    dsimp only
    rw [Session.run_bind_ok (Session.run_now looked), Session.run_ite]
    by_cases hlate : limit ≤ looked.now
    · rw [if_pos hlate]
      exact .inl ⟨_, _, looked, rfl, hover (.stops (.inr (.inl ⟨_, rfl⟩))), .single htaken, hle,
        hlimit⟩
    have hpauses : pause looked.now limit (choosing options false) =
      pause looked.now limit options := rfl
    rw [if_neg hlate, hpauses]
    have hspan : looked.now + pause looked.now limit options ≤ limit := by
      unfold pause
      omega
    have hlater := Session.run_later limit (pause looked.now limit options) looked
    by_cases hclock : limit + pause looked.now limit options ≤ Session.lastMoment
    · rw [Session.run_bind_ok (hlater.trans (if_pos hclock))]
      obtain ⟨passed, now, hpause, hle', hbound, hfull, hstop⟩ :=
        exists_run_pause_step base version id (choosing options false)
          (limit + pause looked.now limit options) (pause looked.now limit options)
          (some task.state) looked
      have hsteps : Steps t [.get url result] s { looked with now } :=
        (Steps.single htaken).append (.paused hle' (.done _))
      cases passed with
      | error e =>
        rw [Session.run_bind_error hpause]
        exact .inl ⟨_, _, _, rfl, hover (hstop e rfl), hsteps, hle.trans hle', hbound.trans hspan⟩
      | ok =>
        rw [Session.run_bind_ok hpause]
        refine .inr (.inl ⟨url, result, task, _, rfl, hurl, hseen.symm, hgoing, hsteps, by omega,
          hbound.trans hspan, ?_⟩)
        show _ ≤ now
        rw [hfull rfl]
        unfold pause
        omega
    · rw [Session.run_bind_halt (hlater.trans (if_neg hclock))]
      have hshorter := pause_antitone options limit hle
      exact .inr (.inr ⟨rfl, by omega⟩)

/-! ### The whole wait -/

/-- **A wait that comes to something is told by its looks.** -/
theorem run_poll_looks (ht : Timely t) (rounds : Nat) {last : Option TaskState} {s after : World σ}
    {seen : Except Error Task} (hnow : s.now ≤ limit)
    (h : Session.run (poll ⟨t, base, version⟩ id (choosing options false) limit rounds last) s =
      .ok (seen, after)) :
    ∃ steps, Looks base version id steps seen ∧ Steps t steps s after ∧ s.now ≤ after.now ∧
      after.now ≤ limit := by
  induction rounds generalizing last s with
  | zero => cases h
  | succ rounds ih =>
    rcases run_round base version id options limit ht rounds last s hnow with
      ⟨seen', steps, after', hrun, hlooks⟩ |
      ⟨url, result, task, mid, hrun, hurl, hshows, hgoing, hsteps, hbefore, hlimit, hlater⟩ |
      ⟨hrun, -⟩
    · rw [hrun] at h
      cases h
      exact ⟨steps, hlooks⟩
    · rw [hrun] at h
      obtain ⟨more, hlooks, hmore, hle, hend⟩ := ih hlimit h
      exact ⟨_, .goesOn hurl hshows hgoing hlooks, hsteps.append hmore, by omega, hend⟩
    · rw [hrun] at h
      cases h

/-- A wait comes to nothing only if its rounds or its clock run out: each round but the last takes
an interval or leads to the deadline, and no pause is longer than one that begins now. -/
theorem halt_of_run_poll (ht : Timely t) (rounds : Nat) {last : Option TaskState} {s : World σ}
    {why : Halt} (hnow : s.now ≤ limit)
    (h : Session.run (poll ⟨t, base, version⟩ id (choosing options false) limit rounds last) s =
      .error why) :
    (why = .unfinished ∧ ∀ k < rounds, k * options.pollInterval.toNanos < limit - s.now) ∨
      (why = .overflow ∧ Session.lastMoment < limit + pause s.now limit options) := by
  induction rounds generalizing last s with
  | zero => exact .inl ⟨(Except.error.inj h).symm, fun _ hk => absurd hk (Nat.not_lt_zero _)⟩
  | succ rounds ih =>
    rcases run_round base version id options limit ht rounds last s hnow with
      ⟨_, _, _, hrun, -⟩ | ⟨_, _, task, mid, hrun, -, -, -, -, hbefore, hlimit, hlater⟩ |
      ⟨hrun, hover⟩
    · cases hrun.symm.trans h
    · rcases ih hlimit (hrun.symm.trans h) with ⟨hwhy, hshort⟩ | ⟨hwhy, hover⟩
      · refine .inl ⟨hwhy, fun k hk => ?_⟩
        cases k with
        | zero => omega
        | succ k =>
          have hrest := hshort k (by omega)
          rw [Nat.succ_mul]
          omega
      · have hshorter := pause_antitone options limit (show s.now ≤ mid.now by omega)
        exact .inr ⟨hwhy, by omega⟩
    · exact .inr ⟨Except.error.inj (h.symm.trans hrun), hover⟩

end Round

theorem allowed_le (timeout : Duration) {now : Nat}
    (hfar : now + farFuture ≤ Session.lastMoment) : allowed now timeout ≤ timeout.toNanos := by
  unfold allowed
  split <;> omega

/-- A wait from one world to another with what it saw, whatever the choice whether a failed task
fails it. -/
structure Awaited (waiter : Waiter σ) (rounds : Nat) (id : String) (w : World σ)
    (steps : List Step) (seen : Except Error Task) (after : World σ) : Prop where
  run : ∀ throws, Session.run (waiter.waitForTask rounds id (choosing options throws)) w =
    .ok (judged id throws seen, after)
  looks : Looks waiter.base waiter.version id steps seen
  steps : Steps waiter.transport steps w after
  le : w.now ≤ after.now
  le_limit : after.now ≤ w.now + options.timeout.toNanos

/-- Why waits that begin by some moment may come to nothing: the pauses between the looks do not
cover the timeout, or the far future or the bound of a pause is not on the clock. -/
def Short (options : WaitOptions) (rounds latest : Nat) : Halt → Prop
  | .unfinished => ∀ k < rounds, k * options.pollInterval.toNanos < options.timeout.toNanos
  | .overflow => Session.lastMoment < latest + farFuture ∨
      Session.lastMoment < latest + options.timeout.toNanos + options.pollInterval.toNanos

/-- A wait is told by its looks, unless its rounds or its clock are too short. -/
theorem awaited_or_halted (waiter : Waiter σ) (ht : Timely waiter.transport) (rounds : Nat)
    {w : World σ} {latest : Nat} (hnow : w.now ≤ latest) :
    (∃ steps seen after, Awaited options waiter rounds id w steps seen after) ∨
      ∃ why, Short options rounds latest why ∧ ∀ throws,
        Session.run (waiter.waitForTask rounds id (choosing options throws)) w = .error why := by
  have heq (throws : Bool) := run_waitForTask_eq id (choosing options throws) waiter rounds w
  have hwait := @run_waitForTask σ id (choosing options false) w waiter rounds
  by_cases hfar : w.now + farFuture ≤ Session.lastMoment
  · rw [if_pos hfar] at hwait
    have hallowed := allowed_le options.timeout hfar
    have hstart : w.now ≤ w.now + allowed w.now options.timeout := Nat.le_add_right _ _
    cases hrun : Session.run (waiter.waitForTask rounds id (choosing options false)) w with
    | error why =>
      refine .inr ⟨why, ?_, fun throws => (heq throws).trans (congrArg _ hrun)⟩
      rcases halt_of_run_poll waiter.base waiter.version id options
        (w.now + allowed w.now options.timeout) ht rounds hstart (hwait.symm.trans hrun) with
        ⟨rfl, hshort⟩ | ⟨rfl, hover⟩
      · intro k hk
        have hless := hshort k hk
        omega
      · have hpause : pause w.now (w.now + allowed w.now options.timeout) options ≤
            options.pollInterval.toNanos := Nat.min_le_left _ _
        exact .inr (by omega)
    | ok ended =>
      obtain ⟨seen, after⟩ := ended
      obtain ⟨steps, hlooks, hsteps, hle, hlimit⟩ := run_poll_looks waiter.base waiter.version id
        options (w.now + allowed w.now options.timeout) ht rounds hstart (hwait.symm.trans hrun)
      exact .inl ⟨steps, seen, after, fun throws => (heq throws).trans (congrArg _ hrun), hlooks,
        hsteps, hle, by omega⟩
  · rw [if_neg hfar] at hwait
    exact .inr ⟨.overflow, .inl (by omega), fun throws => (heq throws).trans (congrArg _ hwait)⟩

/-! ### Tasks in order -/

section Order
variable {α : Type} {options : WaitOptions} {waiter : Waiter σ} {rounds : Nat} {id : String}
  {w after : World σ} {seen : Except Error Task}
  (h : ∀ throws, Session.run (waiter.waitForTask rounds id (choosing options throws)) w =
    .ok (judged id throws seen, after))

include h in
/-- An earlier task lets the next one be waited for only if it was seen finished. -/
theorem run_waitForEarlier (throws : Bool) :
    Session.run (waiter.waitForEarlier rounds id (choosing options throws)) w =
      .ok (seen.bind fun t =>
        if t.state = .error then .error (.taskFailed id t.errorDetail) else .ok (), after) := by
  have hrun := h throws
  unfold waitForEarlier
  cases seen with
  | error e => exact Session.run_bind_error hrun
  | ok t =>
    by_cases hfailed : t.state = .error
    · cases throws with
      | true =>
        simp only [judged, hfailed, if_true, and_self] at hrun
        rw [Session.run_bind_error hrun]
        simp only [Except.bind, hfailed, if_true]
      | false =>
        simp only [judged, Bool.false_eq_true, and_false, if_false] at hrun
        rw [Session.run_bind_ok hrun, Session.run_ite, if_pos hfailed]
        simp only [Except.bind, hfailed, if_true]
        rfl
    · simp only [judged, hfailed, false_and, if_false] at hrun
      rw [Session.run_bind_ok hrun, Session.run_ite, if_neg hfailed]
      simp only [Except.bind, hfailed, if_false]
      rfl

include h in
theorem run_settleList_cons (throws : Bool) (extract : String → Session σ α) {ids : List String}
    (hids : ids ≠ []) :
    Session.run (waiter.settleList rounds (choosing options throws) extract (id :: ids)) w =
      match seen with
      | .error e => .ok (.error e, after)
      | .ok t =>
        if t.state = .error then .ok (.error (.taskFailed id t.errorDetail), after)
        else Session.run (waiter.settleList rounds (choosing options throws) extract ids)
          after := by
  have hearlier := run_waitForEarlier h throws
  have hcons : waiter.settleList rounds (choosing options throws) extract (id :: ids) =
      waiter.waitForEarlier rounds id (choosing options throws) >>= fun _ =>
        waiter.settleList rounds (choosing options throws) extract ids := by
    cases ids with
    | nil => exact absurd rfl hids
    | cons _ _ => rfl
  rw [hcons]
  cases seen with
  | error e => exact Session.run_bind_error hearlier
  | ok t =>
    by_cases hfailed : t.state = .error
    · simp only [Except.bind, hfailed, if_true] at hearlier ⊢
      exact Session.run_bind_error hearlier
    · simp only [Except.bind, hfailed, if_false] at hearlier ⊢
      exact Session.run_bind_ok hearlier

include h in
theorem run_settleList_singleton (throws : Bool) (extract : String → Session σ α) :
    Session.run (waiter.settleList rounds (choosing options throws) extract [id]) w =
      match judged id throws seen with
      | .error e => .ok (.error e, after)
      | .ok _ => Session.run (extract id) after := by
  have hrun := h throws
  unfold settleList waitAndExtract
  cases hjudged : judged id throws seen with
  | error e =>
    rw [hjudged] at hrun
    exact Session.run_bind_error hrun
  | ok t =>
    rw [hjudged] at hrun
    exact Session.run_bind_ok hrun

/-- A wait that comes to nothing leaves all tasks behind it unsettled. -/
theorem run_settleList_of_halt {why : Halt} {throws : Bool} (later : List String)
    (hhalt : Session.run (waiter.waitForTask rounds id (choosing options throws)) w = .error why)
    (extract : String → Session σ α) :
    Session.run (waiter.settleList rounds (choosing options throws) extract (id :: later)) w =
      .error why := by
  cases later with
  | nil => exact Session.run_bind_halt hhalt
  | cons _ _ => exact Session.run_bind_halt (Session.run_bind_halt hhalt)

end Order

end Waiter

end CloudApi
