import CloudApi.Proofs.Task.Wait

/-! Calling off a wait.

A look and a pause go on to their end or to the first alarm before it. One alarm more cuts them
short where it goes off first and changes nothing where it does not (`Under.yields`). A wait is made
of such parts, so that under a cancellation it goes the way of the wait without one, and stops at the
time at which it is called off (`CalledOff.bind`, `calledOff_poll`). It has then issued the looks that
the wait without the cancellation issues before that time (`waitForTask_calledOff`). -/
namespace CloudApi

namespace Alarm

/-- How far time passes on the way to a moment. -/
def reached (alarms : List Alarm) (now moment : Nat) : Nat :=
  match first? alarms moment with
  | none => moment
  | some a => max now a.time

section Concat
variable (alarms : List Alarm) {a : Alarm} {now : Nat} (h : now ≤ a.time) (moment : Nat)

include h

/-- One alarm more is the first one where time would pass beyond it. -/
theorem first?_concat :
    first? (alarms ++ [a]) moment =
      if reached alarms now moment ≤ a.time then first? alarms moment else some a := by
  have hfirst (alarms : List Alarm) :
    first? alarms moment = (alarms.filter (·.time < moment)).foldl earlier none := rfl
  have hconcat : first? (alarms ++ [a]) moment =
      if a.time < moment then earlier (first? alarms moment) a else first? alarms moment := by
    rw [hfirst, hfirst, List.filter_append, List.foldl_append]
    by_cases hbefore : a.time < moment <;> simp [hbefore]
  rw [hconcat, reached]
  rcases first?_cases alarms moment with ⟨hnone, -⟩ | ⟨b, -, hsome, hlt, -⟩
  · rw [hnone]
    simp only [earlier]
    grind
  · rw [hsome]
    simp only [earlier]
    grind

theorem reached_concat :
    reached (alarms ++ [a]) now moment = min (reached alarms now moment) a.time := by
  have hreached := first?_concat alarms h moment
  by_cases hle : reached alarms now moment ≤ a.time
  · rw [if_pos hle] at hreached
    rw [Nat.min_eq_left hle, reached, hreached, reached]
  · rw [if_neg hle] at hreached
    rw [Nat.min_eq_right (by omega), reached, hreached]
    exact Nat.max_eq_right h

end Concat

theorem le_reached (alarms : List Alarm) {now moment : Nat} (h : now ≤ moment) :
    now ≤ reached alarms now moment := by
  unfold reached
  split
  · exact h
  · exact Nat.le_max_left _ _

end Alarm

namespace Waiter
variable {σ α β : Type}

/-! ### Parts of a wait -/

/-- A part of a session under alarms, what it comes to and what it asks for, and how it goes under
one alarm more: the same way if it ends by then, and otherwise up to that alarm. -/
structure Under (alarms : List Alarm) (part : Session σ α) (w : World σ)
    (outcome : Except Error α) (asked : List (Nat × Request)) (after : World σ) : Prop where
  run : Session.run (Session.within alarms part) w = .ok (outcome, after)
  le : w.now ≤ after.now
  alarms_eq : after.alarms = w.alarms
  sent : after.sent = w.sent ++ asked
  asked_at : ∀ r ∈ asked, r.1 = w.now
  yields : ∀ a : Alarm, w.now ≤ a.time → Session.run (Session.within (alarms ++ [a]) part) w =
    .ok (if after.now ≤ a.time then (outcome, after)
      else (.error a.error, { after with now := a.time }))

/-- What comes of letting time pass under alarms. -/
def passed (alarms : List Alarm) (span now : Nat) : Except Error Unit :=
  match Alarm.first? alarms (now + span) with
  | none => .ok ()
  | some a => .error a.error

theorem run_within_pass (alarms : List Alarm) (span : Nat) (w : World σ) :
    Session.run (Session.within alarms (Session.pass span)) w =
      .ok (passed alarms span w.now,
        { w with now := Alarm.reached alarms w.now (w.now + span) }) := by
  rw [Session.run_within, Session.run_pass]
  dsimp only [passed, Alarm.reached]
  cases Alarm.first? alarms (w.now + span) <;> rfl

theorem exists_under_pass (alarms : List Alarm) (span : Nat) (w : World σ) :
    ∃ outcome after, Under alarms (Session.pass span) w outcome [] after := by
  refine ⟨_, _, run_within_pass alarms span w, Alarm.le_reached _ (Nat.le_add_right _ _), rfl,
    (List.append_nil _).symm, List.forall_mem_nil _, fun a ha => ?_⟩
  rw [run_within_pass, passed, Alarm.first?_concat _ ha, Alarm.reached_concat _ ha]
  by_cases hle : Alarm.reached alarms w.now (w.now + span) ≤ a.time
  · simp only [hle, if_true, Nat.min_eq_left hle, passed]
  · simp only [hle, if_false, Nat.min_eq_right (Nat.le_of_not_le hle)]

/-- A look under alarms, where there is a URL to look at. -/
theorem run_within_getTask (server : Server σ) {base url : Url} {version id : String}
    (hurl : Endpoint.task base version id = .ok url) (alarms : List Alarm) (w : World σ) :
    let (answer, peer) := server w.peer (Server.getRequest url)
    Session.run (Session.within alarms (getTask ⟨server.transport, base, version⟩ id)) w =
      .ok ((passed alarms answer.latency w.now).bind fun _ =>
          answer.outcome.bind (Envelope.whole Task.record.decode),
        { w with
          now := Alarm.reached alarms w.now (w.now + answer.latency)
          sent := w.sent ++ [(w.now, Server.getRequest url)]
          peer }) := by
  rw [Session.run_within, run_getTask server hurl]
  dsimp only [Server.fetch, passed, Alarm.reached]
  cases Alarm.first? alarms (w.now + (server w.peer (Server.getRequest url)).1.latency) <;> rfl

theorem exists_under_getTask (server : Server σ) (base : Url) (version id : String)
    (alarms : List Alarm) (w : World σ) :
    ∃ outcome asked after,
      Under alarms (getTask ⟨server.transport, base, version⟩ id) w outcome asked after := by
  cases hurl : Endpoint.task base version id with
  | error e =>
    have hrun (alarms : List Alarm) : Session.run
        (Session.within alarms (getTask ⟨server.transport, base, version⟩ id)) w =
        .ok (.error e, w) := by
      have hlook : Session.run (getTask ⟨server.transport, base, version⟩ id)
          { w with alarms } = .ok (.error e, { w with alarms }) := by
        unfold getTask
        rw [hurl]
        exact Session.run_bind_error (Session.run_ofExcept _ _)
      rw [Session.run_within, hlook]
      rfl
    refine ⟨.error e, [], w, hrun alarms, le_rfl, rfl, (List.append_nil _).symm,
      List.forall_mem_nil _, fun a ha => ?_⟩
    rw [hrun, if_pos ha]
  | ok url =>
    refine ⟨_, _, _, run_within_getTask server hurl alarms w,
      Alarm.le_reached _ (Nat.le_add_right _ _), rfl, rfl, List.forall_mem_singleton.mpr rfl,
      fun a ha => ?_⟩
    have hmore := run_within_getTask server hurl (alarms ++ [a]) w
    dsimp only at hmore ⊢
    rw [hmore, passed, Alarm.first?_concat _ ha, Alarm.reached_concat _ ha]
    by_cases hle : Alarm.reached alarms w.now
        (w.now + (server w.peer (Server.getRequest url)).1.latency) ≤ a.time
    · simp only [hle, if_true, Nat.min_eq_left hle, passed]
    · simp only [hle, if_false, Nat.min_eq_right (Nat.le_of_not_le hle)]
      rfl

/-! ### Parts in order -/

/-- A wait that nothing calls off, with what it comes to and what it asks for, and how it goes if it
is called off: as if it were not once it is over, and before that up to the cancellation. -/
structure CalledOff (id : String) (wait : Option Cancellation → Session σ α) (w : World σ)
    (outcome : Except Error α) (asked : List (Nat × Request)) (after : World σ) : Prop where
  run : Session.run (wait none) w = .ok (outcome, after)
  le : w.now ≤ after.now
  alarms_eq : after.alarms = w.alarms
  sent : after.sent = w.sent ++ asked
  le_asked : ∀ r ∈ asked, w.now ≤ r.1
  late : ∀ c, after.now ≤ c → Session.run (wait (some (.due c))) w = .ok (outcome, after)
  due : ∀ c, w.now ≤ c → c < after.now → (∀ r ∈ asked, r.1 ≠ c) → ∃ peer,
    Session.run (wait (some (.due c))) w = .ok (.error (.cancelled id),
      { w with now := c, sent := w.sent ++ asked.filter (·.1 < c), peer })

section CalledOff
variable {id : String} {wait : Option Cancellation → Session σ α} {w mid after : World σ}
  {outcome : Except Error α} {asked more : List (Nat × Request)}

/-- Something that takes no time. -/
theorem calledOff_of_run (h : ∀ cancel, Session.run (wait cancel) w = .ok (outcome, w)) :
    CalledOff id wait w outcome [] w :=
  ⟨h none, le_rfl, rfl, (List.append_nil _).symm, List.forall_mem_nil _, fun _ _ => h _,
    fun _ hle hlt _ => absurd hle (Nat.not_le.mpr hlt)⟩

theorem CalledOff.congr {wait' : Option Cancellation → Session σ α}
    (h : CalledOff id wait w outcome asked after)
    (heq : ∀ cancel, Session.run (wait' cancel) w = Session.run (wait cancel) w) :
    CalledOff id wait' w outcome asked after where
  __ := h
  run := (heq none).trans h.run
  late c hc := (heq _).trans (h.late c hc)
  due c hle hlt hne := by
    rw [heq]
    exact h.due c hle hlt hne

variable {limit : Nat} {options : WaitOptions} {last : Option TaskState} {part : Session σ β}
  {rest : Option Cancellation → β → Session σ α} {seen : Except Error β}

/-- A part of a wait under a cancellation that is still to come. -/
theorem Under.run_bounded
    (h : Under (alarms id limit { options with cancel := none } last) part w seen asked mid)
    {c : Nat} (hc : w.now ≤ c) :
    Session.run (bounded id limit { options with cancel := some (.due c) } last part) w =
      .ok (if mid.now ≤ c then (seen, mid)
        else (.error (.cancelled id), { mid with now := c })) := by
  have hpast : ¬ (some (Cancellation.due c)).any (·.past w.now) = true := by
    simp only [Option.any_some, Cancellation.past, decide_eq_true_eq]
    omega
  rw [Waiter.run_bounded, if_neg hpast]
  exact h.yields ⟨c, .cancelled id⟩ hc

theorem Under.run_bounded_none
    (h : Under (alarms id limit { options with cancel := none } last) part w seen asked mid) :
    Session.run (bounded id limit { options with cancel := none } last part) w =
      .ok (seen, mid) := by
  rw [Waiter.run_bounded, if_neg (by simp)]
  exact h.run

/-- **A part that is called off is the end of the wait**, and one that is not leaves what it came to
to the rest. -/
theorem CalledOff.bind
    (h : Under (alarms id limit { options with cancel := none } last) part w seen asked mid)
    (hrest : CalledOff id (fun cancel => Session.ofExcept seen >>= rest cancel) mid outcome more
      after) :
    CalledOff id (fun cancel => bounded id limit { options with cancel } last part >>= rest cancel)
      w outcome (asked ++ more) after := by
  have hbind {first : Session σ β} {next : β → Session σ α}
      (hfirst : Session.run first w = .ok (seen, mid)) :
      Session.run (first >>= next) w = Session.run (Session.ofExcept seen >>= next) mid := by
    rw [Session.run_bind, hfirst, Session.run_bind, Session.run_ofExcept]
  refine ⟨(hbind h.run_bounded_none).trans hrest.run, h.le.trans hrest.le,
    hrest.alarms_eq.trans h.alarms_eq, ?_, fun r hr => ?_, fun c hc => ?_, fun c hle hlt hne => ?_⟩
  · rw [hrest.sent, h.sent, List.append_assoc]
  · rcases List.mem_append.mp hr with hr | hr
    · exact (h.asked_at r hr).ge
    · exact h.le.trans (hrest.le_asked r hr)
  · have hpart := h.run_bounded (h.le.trans (hrest.le.trans hc))
    rw [if_pos (hrest.le.trans hc)] at hpart
    exact (hbind hpart).trans (hrest.late c hc)
  · obtain ⟨hfirst, hlater⟩ := List.forall_mem_append.mp hne
    have hpart := h.run_bounded hle
    -- all that the part asks for it asks for at its beginning
    have hasked : asked.filter (·.1 < c) = asked := List.filter_eq_self.mpr fun r hr =>
      decide_eq_true (lt_of_le_of_ne ((h.asked_at r hr).le.trans hle) (hfirst r hr))
    rw [List.filter_append, hasked]
    by_cases hmid : mid.now ≤ c
    · rw [if_pos hmid] at hpart
      obtain ⟨peer, hrun⟩ := hrest.due c hmid hlt hlater
      refine ⟨peer, (hbind hpart).trans (hrun.trans ?_)⟩
      rw [h.sent, h.alarms_eq, List.append_assoc]
    · rw [if_neg hmid] at hpart
      have hmore : more.filter (·.1 < c) = [] := List.filter_eq_nil_iff.mpr fun r hr => by
        have hle := hrest.le_asked r hr
        simp only [decide_eq_true_eq]
        omega
      refine ⟨mid.peer, (Session.run_bind_error hpart).trans ?_⟩
      rw [hmore, List.append_nil, h.sent, h.alarms_eq]

/-- A part that fails is the end of the wait. -/
theorem calledOff_of_error {e : Error}
    (h : Under (alarms id limit { options with cancel := none } last) part w (.error e) asked mid) :
    CalledOff id (fun cancel => bounded id limit { options with cancel } last part >>= rest cancel)
      w (.error e) asked mid := by
  rw [← List.append_nil asked]
  exact .bind h (calledOff_of_run fun _ => Session.run_bind_error (Session.run_ofExcept _ _))

end CalledOff

/-! ### The whole wait -/

/-- What a wait does behind a look that shows a task. -/
def goOn (w : Waiter σ) (id : String) (options : WaitOptions) (limit rounds : Nat) (task : Task) :
    Session σ Task :=
  match verdict id options task with
  | some outcome => Session.ofExcept outcome
  | none => do
    let now ← Session.now
    if limit ≤ now then throw (timedOut id (some task.state))
    else
      let bound ← Session.later limit (pause now limit options)
      bounded id bound options (some task.state) (Session.pass (pause now limit options))
      w.poll id options limit rounds (some task.state)

theorem poll_succ (w : Waiter σ) (id : String) (options : WaitOptions) (limit rounds : Nat)
    (last : Option TaskState) :
    w.poll id options limit (rounds + 1) last =
      bounded id limit options last (w.getTask id) >>= w.goOn id options limit rounds := rfl

/-- The wait ends with the task or at the deadline, leaves the clock, or pauses. -/
theorem run_goOn (w : Waiter σ) (id : String) (options : WaitOptions) (limit rounds : Nat)
    (task : Task) (s : World σ) :
    Session.run (w.goOn id options limit rounds task) s =
      match verdict id options task with
      | some outcome => .ok (outcome, s)
      | none =>
        if limit ≤ s.now then .ok (.error (timedOut id (some task.state)), s)
        else if limit + pause s.now limit options ≤ Session.lastMoment then
          Session.run (bounded id (limit + pause s.now limit options) options (some task.state)
            (Session.pass (pause s.now limit options)) >>= fun _ =>
            w.poll id options limit rounds (some task.state)) s
        else .error .overflow := by
  unfold goOn
  cases verdict id options task with
  | some outcome => rfl
  | none =>
    dsimp only
    rw [Session.run_bind_ok (Session.run_now s), Session.run_ite]
    split
    · rfl
    · have hlater := Session.run_later limit (pause s.now limit options) s
      split
      · next hclock => exact Session.run_bind_ok (hlater.trans (if_pos hclock))
      · next hclock => exact Session.run_bind_halt (hlater.trans (if_neg hclock))

section Wait
variable (server : Server σ) (base : Url) (version id : String) (options : WaitOptions)

/-- The wait under a cancellation. -/
def waitUnder (rounds : Nat) (cancel : Option Cancellation) : Session σ Task :=
  waitForTask ⟨server.transport, base, version⟩ rounds id { options with cancel }

section Rounds
variable (limit rounds : Nat)

/-- The rounds of a wait under a cancellation. -/
def pollUnder (last : Option TaskState) (cancel : Option Cancellation) : Session σ Task :=
  poll ⟨server.transport, base, version⟩ id { options with cancel } limit rounds last

variable {server base version id options limit rounds} {w after : World σ}
  {outcome : Except Error Task}

theorem calledOff_goOn {task : Task}
    (hpoll : ∀ {last : Option TaskState} {w : World σ},
      Session.run (pollUnder server base version id options limit rounds last none) w =
        .ok (outcome, after) →
      ∃ asked, CalledOff id (pollUnder server base version id options limit rounds last) w outcome
        asked after)
    (h : Session.run (goOn ⟨server.transport, base, version⟩ id { options with cancel := none } limit
      rounds task) w = .ok (outcome, after)) :
    ∃ asked, CalledOff id (fun cancel => goOn ⟨server.transport, base, version⟩ id
      { options with cancel } limit rounds task) w outcome asked after := by
  -- what there is to decide does not depend on the cancellation
  have hverdict (cancel : Option Cancellation) :
    verdict id { options with cancel } task = verdict id options task := rfl
  have hpause (cancel : Option Cancellation) :
    pause w.now limit { options with cancel } = pause w.now limit options := rfl
  simp only [run_goOn, hverdict, hpause] at h
  cases hended : verdict id options task with
  | some ended =>
    rw [hended] at h
    cases h
    exact ⟨[], calledOff_of_run fun cancel => by rw [run_goOn, hverdict, hended]⟩
  | none =>
    rw [hended] at h
    dsimp only at h
    by_cases hover : limit ≤ w.now
    · rw [if_pos hover] at h
      cases h
      exact ⟨[], calledOff_of_run fun cancel => by
        rw [run_goOn, hverdict, hended]
        exact if_pos hover⟩
    by_cases hclock : limit + pause w.now limit options ≤ Session.lastMoment
    · rw [if_neg hover, if_pos hclock] at h
      obtain ⟨passed, rested, hpart⟩ := exists_under_pass
        (alarms id (limit + pause w.now limit options) { options with cancel := none }
          (some task.state)) (pause w.now limit options) w
      have hrun (cancel : Option Cancellation) :
          Session.run (goOn ⟨server.transport, base, version⟩ id { options with cancel } limit rounds
            task) w =
          Session.run (bounded id (limit + pause w.now limit options) { options with cancel }
            (some task.state) (Session.pass (pause w.now limit options)) >>= fun _ =>
            pollUnder server base version id options limit rounds (some task.state) cancel) w := by
        rw [run_goOn, hverdict, hended]
        exact (if_neg hover).trans (if_pos hclock)
      rw [Session.run_bind, hpart.run_bounded_none] at h
      cases passed with
      | error e =>
        cases h
        exact ⟨[], (calledOff_of_error hpart).congr hrun⟩
      | ok =>
        obtain ⟨more, hrest⟩ := hpoll h
        refine ⟨more, CalledOff.congr (.bind hpart (hrest.congr fun _ => ?_)) hrun⟩
        exact Session.run_bind_ok (Session.run_ofExcept _ _)
    · rw [if_neg hover, if_neg hclock] at h
      cases h

/-- **The rounds of a wait under a cancellation** go the way of those without one. -/
theorem calledOff_poll {last : Option TaskState}
    (h : Session.run (pollUnder server base version id options limit rounds last none) w =
      .ok (outcome, after)) :
    ∃ asked, CalledOff id (pollUnder server base version id options limit rounds last) w outcome
      asked after := by
  induction rounds generalizing last w with
  | zero => cases h
  | succ rounds ih =>
    obtain ⟨seen, asked, mid, hlook⟩ := exists_under_getTask server base version id
      (alarms id limit { options with cancel := none } last) w
    rw [pollUnder, poll_succ, Session.run_bind, hlook.run_bounded_none] at h
    cases seen with
    | error e =>
      cases h
      exact ⟨asked, calledOff_of_error hlook⟩
    | ok task =>
      obtain ⟨more, hrest⟩ := calledOff_goOn ih h
      exact ⟨asked ++ more, .bind hlook (hrest.congr fun _ => Session.run_bind_ok rfl)⟩

end Rounds

/-- A cancellation that never comes is none. -/
theorem waitUnder_never (rounds : Nat) :
    waitUnder server base version id options rounds (some .never) =
      waitUnder server base version id options rounds none := by
  have hbounded {β : Type} (limit : Nat) (last : Option TaskState) (part : Session σ β) :
    bounded id limit { options with cancel := some .never } last part =
      bounded id limit { options with cancel := none } last part := rfl
  have hpoll (limit : Nat) (last : Option TaskState) :
      pollUnder server base version id options limit rounds last (some .never) =
        pollUnder server base version id options limit rounds last none := by
    unfold pollUnder
    induction rounds generalizing last with
    | zero => rfl
    | succ rounds ih =>
      rw [poll_succ, poll_succ, hbounded]
      refine congrArg _ (funext fun task => ?_)
      unfold goOn
      simp only [ih, hbounded]
      rfl
  unfold waitUnder waitForTask
  exact congrArg _ (funext fun now => congrArg _ (funext fun limit => hpoll limit none))

/-- A wait that was called off before it began looks at nothing. -/
theorem run_waitUnder_past {rounds : Nat} (hrounds : 0 < rounds) {c : Cancellation} {w : World σ}
    (h : c.past w.now) :
    Session.run (waitUnder server base version id options rounds (some c)) w =
      if w.now + farFuture ≤ Session.lastMoment then .ok (.error (.cancelled id), w)
      else .error .overflow := by
  obtain ⟨rounds, rfl⟩ := Nat.exists_eq_add_of_lt hrounds
  rw [waitUnder, run_waitForTask]
  refine ite_congr rfl (fun _ => ?_) fun _ => rfl
  rw [Nat.zero_add, poll_succ]
  refine Session.run_bind_error ((run_bounded _ _ _ _ _ w).trans (if_pos ?_))
  exact h

/-- **A wait under a cancellation.** One that never comes changes nothing, and under one that came
before the wait there is no look. One that comes before the end of the wait ends it at its time; the
looks issued by then are those that the wait without it issues before. One that comes after the end
changes nothing. -/
theorem waitForTask_calledOff (rounds : Nat) (w : World σ) :
    let wait cancel := Session.run (waitUnder server base version id options rounds cancel) w
    wait (some .never) = wait none ∧
    (∀ c : Cancellation, c.past w.now → 0 < rounds → wait (some c) =
      if w.now + farFuture ≤ Session.lastMoment then .ok (.error (.cancelled id), w)
      else .error .overflow) ∧
    ∀ outcome after, wait none = .ok (outcome, after) → ∃ looks, after.sent = w.sent ++ looks ∧
      (∀ c, w.now ≤ c → c < after.now → (∀ look ∈ looks, look.1 ≠ c) → ∃ peer,
        wait (some (.due c)) = .ok (.error (.cancelled id),
          { w with now := c, sent := w.sent ++ looks.filter (·.1 < c), peer })) ∧
      ∀ c, after.now < c → wait (some (.due c)) = .ok (outcome, after) := by
  intro wait
  refine ⟨congrArg (Session.run · w) (waitUnder_never server base version id options rounds),
    fun c hpast hrounds => run_waitUnder_past server base version id options hrounds hpast,
    fun outcome after hends => ?_⟩
  have hwait (cancel : Option Cancellation) : wait cancel =
    if w.now + farFuture ≤ Session.lastMoment then
      Session.run (pollUnder server base version id options (w.now + allowed w.now options.timeout)
        rounds none cancel) w
    else .error .overflow := run_waitForTask w _ rounds
  rw [hwait] at hends
  split at hends
  · next hfar =>
    obtain ⟨looks, hcalled⟩ := calledOff_poll hends
    refine ⟨looks, hcalled.sent, fun c hle hlt hne => ?_, fun c hlt => ?_⟩
    · rw [hwait, if_pos hfar]
      exact hcalled.due c hle hlt hne
    · rw [hwait, if_pos hfar]
      exact hcalled.late c hlt.le
  · cases hends

end Wait

/-! ### One wait called off -/

/-- A task that is looked at after nothing, five and ten seconds, each of the first two times for a
second. Called off after three seconds, in a pause, the wait has looked once; called off in the
second look it has looked twice; after eleven seconds it is over. -/
theorem waitForTask_calledOff_of_slow :
    let wait cancel := Session.run (waitUnder (slowTask 2 1000000000) (serviceUrl [""]) "v1" "t1"
      ⟨.ofSeconds 10, .ofSeconds 4, true, none⟩ 3 cancel) ⟨0, [], [], 0⟩
    let ended : Except Halt (Except Error Task × World Nat) :=
      .ok (.ok finishedTask, ⟨10000000000, [], [(0, taskRequest), (5000000000, taskRequest),
        (10000000000, taskRequest)], 3⟩)
    wait none = ended ∧ wait (some .never) = ended ∧
    wait (some .already) = .ok (.error (.cancelled "t1"), ⟨0, [], [], 0⟩) ∧
    (∃ peer, wait (some (.due 3000000000)) =
      .ok (.error (.cancelled "t1"), ⟨3000000000, [], [(0, taskRequest)], peer⟩)) ∧
    (∃ peer, wait (some (.due 5500000000)) = .ok (.error (.cancelled "t1"),
      ⟨5500000000, [], [(0, taskRequest), (5000000000, taskRequest)], peer⟩)) ∧
    wait (some (.due 11000000000)) = ended := by
  intro wait ended
  have hurl : Endpoint.task (serviceUrl [""]) "v1" "t1" =
      .ok (serviceUrl ["v1", "tasks", "t1"]) := by
    decide +kernel
  let l := timeline (slowTask 2 1000000000) (serviceUrl ["v1", "tasks", "t1"]) "t1"
    ⟨.ofSeconds 10, .ofSeconds 4, true, none⟩ 0 (allowed 0 (.ofSeconds 10))
  have hlast : l.EndsAt 2 (.ok finishedTask) 10000000000 := ⟨by decide +kernel, by decide +kernel⟩
  have hnone : wait none = ended :=
    run_waitForTask_of_endsAt (slowTask 2 1000000000) hurl (.inl rfl) ⟨0, [], [], 0⟩
      (show 2 < 3 by decide) hlast (by decide +kernel)
  obtain ⟨hnever, hpast, hends⟩ := waitForTask_calledOff (slowTask 2 1000000000) (serviceUrl [""])
    "v1" "t1" ⟨.ofSeconds 10, .ofSeconds 4, true, none⟩ 3 ⟨0, [], [], 0⟩
  obtain ⟨looks, hsent, hdue, hover⟩ := hends _ _ hnone
  obtain rfl : [(0, taskRequest), (5000000000, taskRequest), (10000000000, taskRequest)] = looks :=
    hsent
  refine ⟨hnone, hnever.trans hnone, hpast .already rfl (by decide), ?_, ?_, hover _ (by decide)⟩
  · exact hdue 3000000000 (by decide) (by decide) (by decide)
  · exact hdue 5500000000 (by decide) (by decide) (by decide)

end Waiter

end CloudApi
