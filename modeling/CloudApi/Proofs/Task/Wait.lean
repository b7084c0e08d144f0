import CloudApi.Proofs.Session
import CloudApi.Proofs.Task.Timeline
import CloudApi.Task.Waiter

/-! Waiting for a task follows its timeline.

A wait that nothing calls off sends the same request again and again, so that what the server
answers to it is one sequence (`Server.answerAt`) and the wait has one timeline. The wait ends
as the timeline says, with the looks issued when the timeline says (`waitForTask_timeline`), as
long as every moment it computes is on the clock. The bound of a pause is the deadline and the
pause after it, and may lie beyond the last moment although the pause itself ends at the
deadline at the latest: then the wait comes to nothing (`Timeline.InRange`). -/
namespace CloudApi

namespace Server
variable {σ : Type} (server : Server σ)

/-- The peer after a request was sent a number of times. -/
def again (r : Request) (peer : σ) : Nat → σ
  | 0 => peer
  | n + 1 => (server (again r peer n) r).2

/-- The answer to a request that was sent a number of times before. -/
def answerAt (r : Request) (peer : σ) (n : Nat) : Answer :=
  (server (server.again r peer n) r).1

/-- A server with a fixed sequence of answers, whatever it is asked. -/
def inOrder (answers : Nat → Answer) : Server Nat :=
  fun n _ => (answers n, n + 1)

/-- Every sequence of answers is the one of a server. -/
theorem answerAt_inOrder (answers : Nat → Answer) (r : Request) (n : Nat) :
    (inOrder answers).answerAt r 0 n = answers n := by
  have hagain : (inOrder answers).again r 0 n = n := by
    induction n with
    | zero => rfl
    | succ n ih => exact congrArg (· + 1) ih
  rw [answerAt, hagain]
  rfl

end Server

namespace Waiter
variable {σ α : Type}

/-! ### Parts of a wait -/

/-- Nothing calls the wait off. -/
def Uncancelled (options : WaitOptions) : Prop :=
  options.cancel = none ∨ options.cancel = some .never

theorem not_past {options : WaitOptions} (h : Uncancelled options) (now : Nat) :
    options.cancel.any (·.past now) = false := by
  rcases h with h | h <;> rw [h] <;> rfl

theorem alarms_eq {options : WaitOptions} (h : Uncancelled options) (id : String) (limit : Nat)
    (last : Option TaskState) : alarms id limit options last = [⟨limit, timedOut id last⟩] := by
  rcases h with h | h <;> simp [alarms, h]

theorem run_bounded (id : String) (limit : Nat) (options : WaitOptions) (last : Option TaskState)
    (part : Session σ α) (s : World σ) :
    Session.run (bounded id limit options last part) s =
      if options.cancel.any (·.past s.now) then .ok (.error (.cancelled id), s)
      else Session.run (Session.within (alarms id limit options last) part) s := by
  unfold bounded
  rw [Session.run_bind_ok (Session.run_now s), Session.run_ite, Session.run_throw]

/-- A look is one GET of the task. -/
theorem run_getTask (server : Server σ) {base url : Url} {version id : String}
    (hurl : Endpoint.task base version id = .ok url) (s : World σ) :
    Session.run (getTask ⟨server.transport, base, version⟩ id) s =
      .ok ((server.fetch url s).1.bind (Envelope.whole Task.record.decode),
        (server.fetch url s).2) := by
  unfold getTask
  rw [hurl, Session.run_bind_ok (Session.run_ofExcept (.ok url) s), Session.run_bind,
    Server.run_get]
  rcases server.fetch url s with ⟨outcome, after⟩
  cases outcome <;> rfl

/-- One round of a wait: a look, and unless it ends the wait there, a pause. -/
theorem run_poll_succ (w : Waiter σ) (id : String) (options : WaitOptions) (limit rounds : Nat)
    (last : Option TaskState) (s : World σ) :
    Session.run (w.poll id options limit (rounds + 1) last) s =
      Session.run (bounded id limit options last (w.getTask id) >>= fun task =>
        match verdict id options task with
        | some outcome => Session.ofExcept outcome
        | none => Session.now >>= fun now =>
          if limit ≤ now then throw (timedOut id (some task.state))
          else Session.later limit (pause now limit options) >>= fun bound =>
            bounded id bound options (some task.state)
              (Session.pass (pause now limit options)) >>= fun _ =>
            w.poll id options limit rounds (some task.state)) s := rfl

/-- The look of a wait that nothing calls off: it comes back, or is given up at the deadline. -/
theorem run_look (server : Server σ) {base url : Url} {version id : String}
    (hurl : Endpoint.task base version id = .ok url) {options : WaitOptions}
    (hcancel : Uncancelled options) (limit : Nat) (last : Option TaskState) (s : World σ) :
    Session.run (bounded id limit options last (getTask ⟨server.transport, base, version⟩ id)) s =
      let (answer, peer) := server s.peer (Server.getRequest url)
      let asked := { s with sent := s.sent ++ [(s.now, Server.getRequest url)], peer }
      if limit < s.now + answer.latency then
        .ok (.error (timedOut id last), { asked with now := max s.now limit })
      else
        .ok (answer.outcome.bind (Envelope.whole Task.record.decode),
          { asked with now := s.now + answer.latency }) := by
  rw [run_bounded, not_past hcancel, alarms_eq hcancel, if_neg Bool.false_ne_true,
    Session.run_within, run_getTask server hurl]
  by_cases hlate : limit < s.now + (server s.peer (Server.getRequest url)).1.latency
  · simp only [Server.fetch, Alarm.first?_singleton, hlate, if_true]
    rfl
  · simp only [Server.fetch, Alarm.first?_singleton, hlate, if_false]
    rfl

/-- The pause of a wait that nothing calls off passes in full, if its bound is not before. -/
theorem run_rest {options : WaitOptions} (hcancel : Uncancelled options) (id : String)
    {bound span : Nat} (last : Option TaskState) (s : World σ) (hbound : s.now + span ≤ bound) :
    Session.run (bounded id bound options last (Session.pass span)) s =
      .ok (.ok (), { s with now := s.now + span }) := by
  rw [run_bounded, not_past hcancel, alarms_eq hcancel, if_neg Bool.false_ne_true,
    Session.run_within, Session.run_pass, Alarm.first?_singleton, if_neg (Nat.not_lt.mpr hbound)]
  rfl

/-! ### The timeline of a wait -/

/-- How long a wait that begins now may last. -/
def allowed (now : Nat) (timeout : Duration) : Nat :=
  if now + timeout.toNanos ≤ Session.lastMoment then timeout.toNanos else farFuture

/-- The timeline of a wait of a given length: the looks are what the server answers to the
request for the task. -/
def timeline (server : Server σ) (url : Url) (id : String) (options : WaitOptions) (peer : σ)
    (limit : Nat) : Timeline where
  task := id
  limit := limit
  interval := options.pollInterval.toNanos
  throwOnFailure := options.throwOnFailure
  looks i :=
    let answer := server.answerAt (Server.getRequest url) peer i
    ⟨answer.latency, answer.outcome.bind (Envelope.whole Task.record.decode)⟩

/-- The world at a time of a timeline, after a number of looks. -/
def worldAt (server : Server σ) (url : Url) (l : Timeline) (w : World σ) (looks time : Nat) :
    World σ :=
  { w with
    now := w.now + time
    sent := w.sent ++ (List.range looks).map fun i => (w.now + l.issued i, Server.getRequest url)
    peer := server.again (Server.getRequest url) w.peer looks }

end Waiter

/-- Whether the moments that a wait computes are on the clock: the far future, and for each of
its first pauses the deadline with the pause after it. -/
def Timeline.InRange (l : Timeline) (start pauses : Nat) : Prop :=
  start + Waiter.farFuture ≤ Session.lastMoment ∧
    ∀ i < pauses, start + l.limit + l.rest i ≤ Session.lastMoment

instance (l : Timeline) (start pauses : Nat) : Decidable (l.InRange start pauses) :=
  inferInstanceAs (Decidable (_ ∧ _))

namespace Waiter
variable {σ : Type}

section Rounds
variable (server : Server σ) {base url : Url} {version id : String}
  (hurl : Endpoint.task base version id = .ok url) {options : WaitOptions}
  (hcancel : Uncancelled options) (w : World σ) (limit : Nat)

/-- One look more is one request more, sent when the look is issued. -/
theorem worldAt_succ (l : Timeline) (i time : Nat) :
    worldAt server url l w (i + 1) time =
      { worldAt server url l w i time with
        sent := (worldAt server url l w i time).sent ++
          [(w.now + l.issued i, Server.getRequest url)]
        peer := (server (server.again (Server.getRequest url) w.peer i)
          (Server.getRequest url)).2 } := by
  simp [worldAt, Server.again, List.range_succ]

include hurl hcancel in
/-- The look of a round is the look of the timeline, given up at the deadline. -/
theorem run_look_at (i : Nat) (last : Option TaskState) :
    let l := timeline server url id options w.peer limit
    Session.run (bounded id (w.now + limit) options last
        (getTask ⟨server.transport, base, version⟩ id)) (worldAt server url l w i (l.issued i)) =
      if limit < l.answered i then
        .ok (.error (timedOut id last), worldAt server url l w (i + 1) limit)
      else .ok ((l.looks i).seen, worldAt server url l w (i + 1) (l.answered i)) := by
  intro l
  have hissued : l.issued i ≤ limit := l.issued_le i
  have hlate : w.now + limit < w.now + l.issued i + (l.looks i).latency ↔
      limit < l.answered i := by
    unfold Timeline.answered
    omega
  rw [run_look server hurl hcancel]
  by_cases h : limit < l.answered i
  · rw [if_pos h, worldAt_succ]
    refine (if_pos (hlate.mpr h)).trans ?_
    simp only [worldAt, Nat.max_eq_right (Nat.add_le_add_left hissued w.now)]
  · rw [if_neg h, worldAt_succ]
    refine (if_neg (mt hlate.mp h)).trans ?_
    simp only [worldAt, Timeline.answered, ← Nat.add_assoc]
    rfl

/-- A look that came back ends the wait at once if the task has ended. -/
theorem ending?_of_verdict {i : Nat} {t : Task} {outcome : Except Error Task} :
    let l := timeline server url id options w.peer limit
    ¬ limit < l.answered i → (l.looks i).seen = .ok t → verdict id options t = some outcome →
      l.ending? i = some (outcome, l.answered i) := by
  intro l hlate hseen hverdict
  unfold Timeline.ending?
  rw [if_neg (show ¬ l.limit < l.answered i from hlate), hseen]
  unfold verdict at hverdict
  cases hstate : t.state with
  | finished =>
    simp only [hstate] at hverdict ⊢
    rw [← Option.some.inj hverdict]
  | error =>
    simp only [hstate] at hverdict ⊢
    rw [show l.throwOnFailure = options.throwOnFailure from rfl, show l.task = id from rfl]
    split at hverdict
    · rw [if_pos ‹_›, ← Option.some.inj hverdict]
    · rw [if_neg ‹_›, ← Option.some.inj hverdict]
  | _ => simp [hstate] at hverdict

/-- While the task goes on, a look that came back ends the wait only at the deadline. -/
theorem ending?_of_no_verdict {i : Nat} {t : Task} :
    let l := timeline server url id options w.peer limit
    ¬ limit < l.answered i → (l.looks i).seen = .ok t → verdict id options t = none →
      l.ending? i =
        if l.answered i = limit then some (.error (timedOut id (some t.state)), limit)
        else none := by
  intro l hlate hseen hverdict
  unfold Timeline.ending?
  rw [if_neg (show ¬ l.limit < l.answered i from hlate), hseen]
  unfold verdict at hverdict
  cases hstate : t.state with
  | finished => simp [hstate] at hverdict
  | error => cases hthrow : options.throwOnFailure <;> simp [hstate, hthrow] at hverdict
  | _ =>
    simp only [hstate]
    rfl

/-- The pause of a round is the pause of the timeline. -/
theorem pause_at (i : Nat) :
    let l := timeline server url id options w.peer limit
    pause (w.now + l.answered i) (w.now + limit) options = l.rest i := by
  intro l
  rw [pause, Nat.add_sub_add_left]
  rfl

include hcancel in
/-- The pause after a look that came back in time leads to the next look. -/
theorem run_rest_at {i : Nat} (last : Option TaskState) :
    let l := timeline server url id options w.peer limit
    l.answered i ≤ limit →
      Session.run (bounded id (w.now + limit + l.rest i) options last (Session.pass (l.rest i)))
          (worldAt server url l w (i + 1) (l.answered i)) =
        .ok (.ok (), worldAt server url l w (i + 1) (l.issued (i + 1))) := by
  intro l hintime
  rw [run_rest hcancel id last _ (show w.now + l.answered i + l.rest i ≤ _ by omega),
    l.issued_succ hintime]
  simp only [worldAt, Nat.add_assoc]

include hurl hcancel in
/-- One round of the wait is one look of the timeline. -/
theorem run_poll_step (i rounds : Nat) :
    let l := timeline server url id options w.peer limit
    Session.run (poll ⟨server.transport, base, version⟩ id options (w.now + limit) (rounds + 1)
        (l.lastSeen i)) (worldAt server url l w i (l.issued i)) =
      match l.ending? i with
      | some (outcome, time) => .ok (outcome, worldAt server url l w (i + 1) time)
      | none =>
        if w.now + limit + l.rest i ≤ Session.lastMoment then
          Session.run (poll ⟨server.transport, base, version⟩ id options (w.now + limit) rounds
            (l.lastSeen (i + 1))) (worldAt server url l w (i + 1) (l.issued (i + 1)))
        else .error .overflow := by
  intro l
  have hlook := run_look_at server hurl hcancel w limit i (l.lastSeen i)
  rw [run_poll_succ]
  by_cases hlate : limit < l.answered i
  · have hending : l.ending? i = some (.error (timedOut id (l.lastSeen i)), limit) := by
      unfold Timeline.ending?
      rw [if_pos (show l.limit < l.answered i from hlate)]
      cases l.lastSeen i <;> rfl
    rw [Session.run_bind_error (hlook.trans (if_pos hlate)), hending]
  · replace hlook := hlook.trans (if_neg hlate)
    cases hseen : (l.looks i).seen with
    | error e =>
      have hending : l.ending? i = some (.error e, l.answered i) := by
        unfold Timeline.ending?
        rw [if_neg (show ¬ l.limit < l.answered i from hlate), hseen]
      rw [Session.run_bind_error (hlook.trans (by rw [hseen])), hending]
    | ok t =>
      rw [Session.run_bind_ok (hlook.trans (by rw [hseen]))]
      cases hverdict : verdict id options t with
      | some outcome =>
        rw [ending?_of_verdict server w limit hlate hseen hverdict]
        rfl
      | none =>
        have hlast : l.lastSeen (i + 1) = some t.state := by
          simp only [Timeline.lastSeen, hseen]
          rfl
        rw [ending?_of_no_verdict server w limit hlate hseen hverdict, hlast,
          Session.run_bind_ok (Session.run_now _), Session.run_ite]
        have hnow : (worldAt server url l w (i + 1) (l.answered i)).now = w.now + l.answered i :=
          rfl
        rw [hnow, pause_at]
        by_cases hover : l.answered i = limit
        · rw [if_pos hover, if_pos (by omega), hover]
          rfl
        · rw [if_neg hover, if_neg (by omega)]
          have hlater := Session.run_later (w.now + limit) (l.rest i)
            (worldAt server url l w (i + 1) (l.answered i))
          by_cases hrange : w.now + limit + l.rest i ≤ Session.lastMoment
          · rw [Session.run_bind_ok (hlater.trans (if_pos hrange)), Session.run_bind_ok
              (run_rest_at server hcancel w limit _ (Nat.not_lt.mp hlate))]
            exact (if_pos hrange).symm
          · rw [Session.run_bind_halt (hlater.trans (if_neg hrange))]
            exact (if_neg hrange).symm

include hurl hcancel in
/-- A number of rounds in which the wait neither ends nor leaves the clock. -/
theorem run_poll_rounds (n rounds : Nat) :
    let l := timeline server url id options w.peer limit
    (∀ j < n, l.ending? j = none) → (∀ j < n, w.now + limit + l.rest j ≤ Session.lastMoment) →
      Session.run (poll ⟨server.transport, base, version⟩ id options (w.now + limit) (n + rounds)
          none) w =
        Session.run (poll ⟨server.transport, base, version⟩ id options (w.now + limit) rounds
          (l.lastSeen n)) (worldAt server url l w n (l.issued n)) := by
  intro l hgoing hrange
  induction n generalizing rounds with
  | zero =>
    have hstart : worldAt server url l w 0 (l.issued 0) = w := by
      simp [worldAt, Timeline.issued, Server.again]
    rw [Nat.zero_add, hstart]
    rfl
  | succ n ih =>
    rw [Nat.add_right_comm, Nat.add_assoc,
      ih (rounds + 1) (fun j hj => hgoing j (Nat.lt_succ_of_lt hj))
        (fun j hj => hrange j (Nat.lt_succ_of_lt hj)),
      run_poll_step server hurl hcancel, hgoing n (Nat.lt_succ_self n)]
    exact if_pos (hrange n (Nat.lt_succ_self n))

/-! ### The wait -/

theorem run_deadline (timeout : Duration) (now : Nat) (s : World σ) :
    Session.run (deadline now timeout) s =
      if now + farFuture ≤ Session.lastMoment then .ok (.ok (now + allowed now timeout), s)
      else .error .overflow := by
  have hlater := Session.run_later now farFuture s
  unfold deadline
  by_cases hfar : now + farFuture ≤ Session.lastMoment
  · rw [Session.run_bind_ok (hlater.trans (if_pos hfar)), if_pos hfar, Session.run_pure, allowed]
    split <;> rfl
  · rw [Session.run_bind_halt (hlater.trans (if_neg hfar)), if_neg hfar]

/-- A wait is its rounds up to the deadline, if the far future is on the clock. -/
theorem run_waitForTask (waiter : Waiter σ) (rounds : Nat) :
    Session.run (waiter.waitForTask rounds id options) w =
      if w.now + farFuture ≤ Session.lastMoment then
        Session.run (waiter.poll id options (w.now + allowed w.now options.timeout) rounds none) w
      else .error .overflow := by
  unfold waitForTask
  rw [Session.run_bind_ok (Session.run_now w)]
  have hdeadline := run_deadline options.timeout w.now w
  by_cases hfar : w.now + farFuture ≤ Session.lastMoment
  · rw [Session.run_bind_ok (hdeadline.trans (if_pos hfar)), if_pos hfar]
  · rw [Session.run_bind_halt (hdeadline.trans (if_neg hfar)), if_neg hfar]

include hurl hcancel in
/-- A wait that leaves the clock before it ends comes to nothing. -/
theorem run_waitForTask_of_not_inRange {n rounds : Nat} (hn : n ≤ rounds) :
    let l := timeline server url id options w.peer (allowed w.now options.timeout)
    (∀ j < n, l.ending? j = none) → ¬ l.InRange w.now n →
      Session.run (waitForTask ⟨server.transport, base, version⟩ rounds id options) w =
        .error .overflow := by
  intro l hgoing hrange
  rw [run_waitForTask]
  split
  · next hfar =>
    have hex : ∃ i, i < n ∧ ¬ w.now + l.limit + l.rest i ≤ Session.lastMoment := by
      by_contra hall
      exact hrange ⟨hfar, fun i hi => by_contra fun h => hall ⟨i, hi, h⟩⟩
    -- the first pause with its bound beyond the clock
    obtain ⟨hi, hover⟩ := Nat.find_spec hex
    have hbefore (j : Nat) (hj : j < Nat.find hex) :
        w.now + l.limit + l.rest j ≤ Session.lastMoment :=
      by_contra fun h => Nat.find_min hex hj ⟨Nat.lt_trans hj hi, h⟩
    obtain ⟨more, rfl⟩ := Nat.exists_eq_add_of_lt (Nat.lt_of_lt_of_le hi hn)
    rw [Nat.add_assoc, run_poll_rounds server hurl hcancel w _ _ (more + 1)
      (fun j hj => hgoing j (Nat.lt_trans hj hi)) hbefore, run_poll_step server hurl hcancel,
      hgoing _ hi]
    exact if_neg hover
  · rfl

include hurl hcancel in
/-- A wait in range ends as the timeline says. -/
theorem run_waitForTask_of_endsAt {n rounds time : Nat} {outcome : Except Error Task}
    (hn : n < rounds) :
    let l := timeline server url id options w.peer (allowed w.now options.timeout)
    l.EndsAt n outcome time → l.InRange w.now n →
      Session.run (waitForTask ⟨server.transport, base, version⟩ rounds id options) w =
        .ok (outcome, worldAt server url l w (n + 1) time) := by
  intro l ⟨hending, hgoing⟩ ⟨hfar, hrange⟩
  obtain ⟨more, rfl⟩ := Nat.exists_eq_add_of_lt hn
  rw [run_waitForTask, if_pos hfar, Nat.add_assoc,
    run_poll_rounds server hurl hcancel w _ n (more + 1) hgoing hrange,
    run_poll_step server hurl hcancel, hending]

include hurl hcancel in
/-- A wait in range that does not end within its rounds is unfinished. -/
theorem run_waitForTask_of_going (rounds : Nat) :
    let l := timeline server url id options w.peer (allowed w.now options.timeout)
    (∀ j < rounds, l.ending? j = none) → l.InRange w.now rounds →
      Session.run (waitForTask ⟨server.transport, base, version⟩ rounds id options) w =
        .error .unfinished := by
  intro l hgoing ⟨hfar, hrange⟩
  rw [run_waitForTask, if_pos hfar, ← Nat.add_zero rounds,
    run_poll_rounds server hurl hcancel w _ rounds 0 hgoing hrange]
  rfl

end Rounds

/-- **A wait follows its timeline.** It ends with the first look with which the timeline ends,
at the time and with the outcome told there, never beyond the deadline; it has then sent one
request for each look, at the time at which the timeline issues it. This fails only where a
moment it computes is not on the clock. With an interval between the looks the timeline ends. -/
theorem waitForTask_timeline (server : Server σ) {base url : Url} {version id : String}
    (hurl : Endpoint.task base version id = .ok url) {options : WaitOptions}
    (hcancel : Uncancelled options) (w : World σ) {l : Timeline}
    (hl : l = timeline server url id options w.peer (allowed w.now options.timeout)) :
    (∀ n outcome time, l.EndsAt n outcome time → time ≤ l.limit ∧ ∀ rounds, n < rounds →
      Session.run (waitForTask ⟨server.transport, base, version⟩ rounds id options) w =
        if l.InRange w.now n then .ok (outcome, worldAt server url l w (n + 1) time)
        else .error .overflow) ∧
    (∀ rounds, (∀ j < rounds, l.ending? j = none) →
      Session.run (waitForTask ⟨server.transport, base, version⟩ rounds id options) w =
        .error (if l.InRange w.now rounds then .unfinished else .overflow)) ∧
    (0 < l.interval →
      ∃ n outcome time, l.EndsAt n outcome time ∧ n * l.interval < l.limit + l.interval) := by
  subst hl
  refine ⟨fun n outcome time hends =>
    ⟨Timeline.ending_le _ hends.1, fun rounds hn => ?_⟩,
    fun rounds hgoing => ?_, Timeline.exists_endsAt _⟩
  · split
    · next hrange => exact run_waitForTask_of_endsAt server hurl hcancel w hn hends hrange
    · next hrange =>
      exact run_waitForTask_of_not_inRange server hurl hcancel w hn.le hends.2 hrange
  · split
    · next hrange => exact run_waitForTask_of_going server hurl hcancel w rounds hgoing hrange
    · next hrange =>
      exact run_waitForTask_of_not_inRange server hurl hcancel w le_rfl hgoing hrange

/-! ### Two waits -/

/-- A task that is new for a number of looks, each of which takes a while, and finished then. -/
def slowTask (looks latency : Nat) : Server Nat :=
  Server.inOrder fun n =>
    if n < looks then ⟨latency, .ok (.object [("id", .string "t1"), ("state", .string "NEW")])⟩
    else ⟨0, .ok (.object [("id", .string "t1"), ("state", .string "FINISHED")])⟩

def finishedTask : Task :=
  ⟨"t1", .finished, none, none, none, none, none, none, none, none, none, none, none, none, none⟩

def taskRequest : Request :=
  Server.getRequest (serviceUrl ["v1", "tasks", "t1"])

/-- Looks every four seconds for ten seconds: the third one is issued at the deadline, and what
it shows then counts. -/
theorem waitForTask_until_deadline :
    Endpoint.task (serviceUrl [""]) "v1" "t1" = .ok (serviceUrl ["v1", "tasks", "t1"]) ∧
    Uncancelled ⟨.ofSeconds 10, .ofSeconds 4, true, none⟩ ∧
    Session.run (waitForTask ⟨(slowTask 2 1000000000).transport, serviceUrl [""], "v1"⟩ 3 "t1"
        ⟨.ofSeconds 10, .ofSeconds 4, true, none⟩) ⟨0, [], [], 0⟩ =
      .ok (.ok finishedTask, ⟨10000000000, [], [(0, taskRequest), (5000000000, taskRequest),
        (10000000000, taskRequest)], 3⟩) := by
  have hurl : Endpoint.task (serviceUrl [""]) "v1" "t1" =
      .ok (serviceUrl ["v1", "tasks", "t1"]) := by
    decide +kernel
  have hcancel : Uncancelled ⟨.ofSeconds 10, .ofSeconds 4, true, none⟩ := .inl rfl
  refine ⟨hurl, hcancel, ?_⟩
  have hends := (waitForTask_timeline (slowTask 2 1000000000) hurl hcancel ⟨0, [], [], 0⟩ rfl).1 2
    (.ok finishedTask) 10000000000 ⟨by decide +kernel, by decide +kernel⟩
  rw [hends.2 3 (by decide), if_pos (by decide +kernel)]
  rfl

/-- A wait may leave the clock although its timeline ends: the deadline is ten thousand million
seconds before the last moment, and the pause before the second look is ten times as long. -/
theorem waitForTask_leaves_clock :
    let options : WaitOptions :=
      ⟨.ofSeconds 9223372026854775807, .ofMillis 100000000000000, true, none⟩
    let l := timeline (slowTask 1 0) (serviceUrl ["v1", "tasks", "t1"]) "t1" options 0
      (allowed 0 options.timeout)
    l.EndsAt 1 (.ok finishedTask) 100000000000000000000 ∧
    ∀ rounds, 1 < rounds →
      Session.run (waitForTask ⟨(slowTask 1 0).transport, serviceUrl [""], "v1"⟩ rounds "t1"
        options) ⟨0, [], [], 0⟩ = .error .overflow := by
  intro options l
  have hends : l.EndsAt 1 (.ok finishedTask) 100000000000000000000 :=
    ⟨by decide +kernel, by decide +kernel⟩
  refine ⟨hends, fun rounds hrounds => ?_⟩
  exact run_waitForTask_of_not_inRange (slowTask 1 0) (by decide +kernel) (.inl rfl)
    ⟨0, [], [], 0⟩ hrounds.le hends.2 (by decide +kernel)

end Waiter

end CloudApi
