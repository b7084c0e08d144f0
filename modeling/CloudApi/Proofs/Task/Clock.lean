import CloudApi.Proofs.Task.Stretch

/-! Waits that stay on the clock.

A wait computes a few moments: the far future, its deadline, and for each pause the deadline with
that pause after it. The deadline is on the clock for every timeout, because one that would not be is
replaced by the far future (`deadline_le`). The bound of a pause may be beyond the clock, although the
pause itself ends at the deadline at the latest. Pauses get no longer along a wait, so that the first
one decides (`Timeline.rest_le`): a wait leaves the clock with its first look or not at all, and a
timeout and an interval are safe for every wait exactly if the longest pause there can be fits behind
the deadline (`waitForTask_on_clock`). -/
namespace CloudApi

namespace Timeline
variable (l : Timeline)

/-! ### Pauses of a timeline -/

/-- What is left until the deadline when a look comes back gets no more. -/
theorem left_succ_le (i : Nat) : l.limit - l.answered (i + 1) ≤ l.limit - l.answered i := by
  have hissued : l.issued (i + 1) = min (l.answered i + l.interval) l.limit := rfl
  have hanswered : l.answered (i + 1) = l.issued (i + 1) + (l.looks (i + 1)).latency := rfl
  omega

/-- No pause is longer than the first. -/
theorem rest_le (i : Nat) : l.rest i ≤ l.rest 0 := by
  induction i with
  | zero => exact le_rfl
  | succ i ih =>
    have hleft := l.left_succ_le i
    unfold rest at ih ⊢
    omega

/-- The clock covers a wait if it covers the first pause. -/
theorem inRange_of_first {start : Nat} (hfar : start + Waiter.farFuture ≤ Session.lastMoment)
    (hfirst : start + l.limit + l.rest 0 ≤ Session.lastMoment) (pauses : Nat) :
    l.InRange start pauses := by
  refine ⟨hfar, fun i _ => ?_⟩
  have hrest := l.rest_le i
  omega

end Timeline

namespace Waiter
variable {σ : Type}

/-! ### The moments of a wait -/

/-- Every deadline is on the clock, if the far future is. -/
theorem deadline_le {start : Nat} (hfar : start + farFuture ≤ Session.lastMoment)
    (timeout : Duration) : start + allowed start timeout ≤ Session.lastMoment := by
  unfold allowed
  split
  · assumption
  · exact hfar

/-- The longest pause of a wait: the interval, or all the time there is. -/
def longestPause (start : Nat) (timeout interval : Duration) : Nat :=
  min interval.toNanos (allowed start timeout)

/-- A wait whose longest pause fits behind its deadline stays on the clock, whatever it is answered
and whenever it is called off. -/
theorem run_waitForTask_ne_overflow {waiter : Waiter σ} (ht : Timely waiter.transport)
    {options : WaitOptions} {w : World σ} (hfar : w.now + farFuture ≤ Session.lastMoment)
    (hfits : w.now + allowed w.now options.timeout +
      longestPause w.now options.timeout options.pollInterval ≤ Session.lastMoment)
    (rounds : Nat) (id : String) :
    Session.run (waiter.waitForTask rounds id options) w ≠ .error .overflow := by
  intro hrun
  have heq := run_waitForTask_eq id options waiter rounds w
  cases hwait : Session.run (waiter.waitForTask rounds id (choosing options false)) w with
  | ok ended =>
    rw [hrun, hwait] at heq
    cases heq
  | error why =>
    rw [hrun, hwait] at heq
    obtain rfl := Except.error.inj heq
    rw [run_waitForTask, if_pos hfar] at hwait
    rcases halt_of_run_poll waiter.base waiter.version id options
        (w.now + allowed w.now options.timeout) ht rounds (Nat.le_add_right _ _) hwait with
      ⟨hwhy, -⟩ | ⟨-, hover⟩
    · cases hwhy
    · unfold longestPause at hfits
      unfold pause at hover
      omega

section Rounds
variable (server : Server σ) {base url : Url} {version id : String}
  (hurl : Endpoint.task base version id = .ok url) {options : WaitOptions}
  (hcancel : Uncancelled options) {w : World σ}

include hurl hcancel in
/-- **The first look decides whether a wait leaves the clock.** -/
theorem run_waitForTask_overflow_iff (hfar : w.now + farFuture ≤ Session.lastMoment)
    (rounds : Nat) :
    let l := timeline server url id options w.peer (allowed w.now options.timeout)
    Session.run (waitForTask ⟨server.transport, base, version⟩ (rounds + 1) id options) w =
        .error .overflow ↔
      l.ending? 0 = none ∧ Session.lastMoment < w.now + l.limit + l.rest 0 := by
  intro l
  constructor
  · intro hrun
    have hgoing : l.ending? 0 = none := by
      by_contra hends
      obtain ⟨⟨outcome, time⟩, hends⟩ := Option.ne_none_iff_exists'.mp hends
      have hended := run_waitForTask_of_endsAt server hurl hcancel w (Nat.succ_pos rounds)
        ⟨hends, nofun⟩ ⟨hfar, nofun⟩
      cases hrun.symm.trans hended
    refine ⟨hgoing, ?_⟩
    by_contra hfits
    have hrange := l.inRange_of_first hfar (Nat.not_lt.mp hfits)
    by_cases hall : ∀ j < rounds + 1, l.ending? j = none
    · have hunfinished := run_waitForTask_of_going server hurl hcancel w _ hall (hrange _)
      cases hrun.symm.trans hunfinished
    · push Not at hall
      obtain ⟨j, hj, hends⟩ := hall
      obtain ⟨i, hi, outcome, time, hends⟩ := l.exists_endsAt_of_ne_none hends
      have hended := run_waitForTask_of_endsAt server hurl hcancel w (hi.trans_lt hj) hends
        (hrange i)
      cases hrun.symm.trans hended
  · rintro ⟨hgoing, hover⟩
    refine run_waitForTask_of_not_inRange server hurl hcancel w (Nat.le_add_left 1 rounds)
      (fun j hj => ?_) (fun hrange => ?_)
    · obtain rfl : j = 0 := by omega
      exact hgoing
    · exact (Nat.not_le.mpr hover) (hrange.2 0 (Nat.lt_succ_self 0))

end Rounds

/-- A task that is shown as new at once leads to the longest pause. -/
theorem run_waitForTask_new {start : Nat} (hfar : start + farFuture ≤ Session.lastMoment)
    {timeout interval : Duration} (hlong : Session.lastMoment <
      start + allowed start timeout + longestPause start timeout interval) :
    Session.run (waitForTask ⟨(slowTask 1 0).transport, serviceUrl [""], "v1"⟩ 1 "t1"
      ⟨timeout, interval, true, none⟩) ⟨start, [], [], 0⟩ = .error .overflow := by
  have hurl : Endpoint.task (serviceUrl [""]) "v1" "t1" =
      .ok (serviceUrl ["v1", "tasks", "t1"]) := by
    decide +kernel
  refine (run_waitForTask_overflow_iff (slowTask 1 0) hurl (.inl rfl) hfar 0).mpr ⟨?_, hlong⟩
  -- the look is over before the deadline, because there is a pause behind it
  have hlate : 0 < allowed start timeout := by
    by_contra hzero
    have hdeadline := deadline_le hfar timeout
    unfold longestPause at hlong
    omega
  have hshows : ((slowTask 1 0).answerAt taskRequest 0 0).outcome.bind
      (Envelope.whole Task.record.decode) = .ok { finishedTask with state := .new } := by
    decide +kernel
  have hseen : ((timeline (slowTask 1 0) (serviceUrl ["v1", "tasks", "t1"]) "t1"
      ⟨timeout, interval, true, none⟩ 0 (allowed start timeout)).looks 0).seen =
        .ok { finishedTask with state := .new } := hshows
  unfold Timeline.ending?
  rw [hseen]
  exact (if_neg (Nat.not_lt_zero _)).trans (if_neg hlate.ne)

/-- **When a wait stays on the clock.** Let the far future be on it. The deadline is on the clock for
every timeout. The bound of a pause need not be: the waits with a timeout and an interval all stay on
the clock, whatever they are answered and whenever they are called off, exactly if the longest pause
there can be fits behind the deadline. A wait that nothing calls off leaves the clock exactly if its
first look shows the task going on and the pause after that does not fit behind the deadline. -/
theorem waitForTask_on_clock {start : Nat} (hfar : start + farFuture ≤ Session.lastMoment)
    (timeout interval : Duration) :
    start + allowed start timeout ≤ Session.lastMoment ∧
    ((∀ (σ : Type) (waiter : Waiter σ) (w : World σ) rounds id throws cancel,
        Timely waiter.transport → w.now = start →
        Session.run (waiter.waitForTask rounds id ⟨timeout, interval, throws, cancel⟩) w ≠
          .error .overflow) ↔
      start + allowed start timeout + longestPause start timeout interval ≤
        Session.lastMoment) ∧
    ∀ (σ : Type) (server : Server σ) (w : World σ) base url version id throws cancel rounds,
      let options : WaitOptions := ⟨timeout, interval, throws, cancel⟩
      let l := timeline server url id options w.peer (allowed start timeout)
      Endpoint.task base version id = .ok url → Uncancelled options → w.now = start →
        (Session.run (waitForTask ⟨server.transport, base, version⟩ (rounds + 1) id options) w =
            .error .overflow ↔
          l.ending? 0 = none ∧ Session.lastMoment < start + l.limit + l.rest 0) := by
  refine ⟨deadline_le hfar timeout, ⟨fun hsafe => ?_, ?_⟩, ?_⟩
  · by_contra hlong
    exact hsafe Nat ⟨(slowTask 1 0).transport, serviceUrl [""], "v1"⟩ ⟨start, [], [], 0⟩ 1 "t1" true
      none (slowTask 1 0).timely rfl (run_waitForTask_new hfar (Nat.not_le.mp hlong))
  · rintro hfits σ waiter w rounds id throws cancel ht rfl
    refine run_waitForTask_ne_overflow ht hfar ?_ rounds id
    exact hfits
  · rintro σ server w base url version id throws cancel rounds options l hurl hcancel rfl
    exact run_waitForTask_overflow_iff server hurl hcancel hfar rounds

/-- The longest timeout there is, a day after the clock began: the far future stands for it, and no
wait leaves the clock. -/
theorem waitForTask_on_clock_of_longest :
    let start := 86400 * 1000000000
    let timeout : Duration := ⟨0xFFFFFFFFFFFFFFFF, 999999999⟩
    start + farFuture ≤ Session.lastMoment ∧ allowed start timeout = farFuture ∧
    ∀ (σ : Type) (server : Server σ) rounds id throws cancel base version peer,
      Session.run (waitForTask ⟨server.transport, base, version⟩ rounds id
        ⟨timeout, timeout, throws, cancel⟩) ⟨start, [], [], peer⟩ ≠ .error .overflow := by
  intro start timeout
  have hfar : start + farFuture ≤ Session.lastMoment := by decide +kernel
  refine ⟨hfar, by decide +kernel, fun σ server rounds id throws cancel base version peer => ?_⟩
  have hsafe := (waitForTask_on_clock hfar timeout timeout).2.1.mpr (by decide +kernel)
  exact hsafe σ _ _ rounds id throws cancel server.timely rfl

/-- A timeout that ends ten thousand million seconds before the last moment, and an interval twice as
long: the deadline is on the clock, and the bound of the first pause is not. -/
theorem waitForTask_pause_off_clock :
    let start := 86400 * 1000000000
    let options : WaitOptions :=
      ⟨.ofSeconds 9223372026854775807, .ofMillis 20000000000000, true, none⟩
    start + farFuture ≤ Session.lastMoment ∧
    start + options.timeout.toNanos ≤ Session.lastMoment ∧
    Session.run (waitForTask ⟨(slowTask 1 0).transport, serviceUrl [""], "v1"⟩ 1 "t1" options)
      ⟨start, [], [], 0⟩ = .error .overflow := by
  intro start options
  have hfar : start + farFuture ≤ Session.lastMoment := by decide +kernel
  exact ⟨hfar, by decide +kernel, run_waitForTask_new hfar (by decide +kernel)⟩

end Waiter

end CloudApi
