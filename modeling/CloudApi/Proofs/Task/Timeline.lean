import CloudApi.Task.Basic
import Mathlib.Order.Nat

/-! Timelines: what waiting for a task comes to, without the loop.

A timeline is told by its deadline, the interval between looks and what each look shows. Look
`i` is issued at `issued i`, comes back at `answered i`, and says with `ending?` whether the wait
is over there, when and how. All times count from the beginning of the wait. A wait never lasts
beyond its deadline (`ending_le`), and ends after at most one look for each begun interval and
one more (`exists_endsAt`). -/
namespace CloudApi

/-- A look at a task: how long it takes to come back, and what it shows. -/
structure Look where
  latency : Nat
  seen : Except Error Task

structure Timeline where
  task : String
  limit : Nat
  interval : Nat
  throwOnFailure : Bool
  looks : Nat → Look

namespace Timeline
variable (l : Timeline)

/-- When a look is issued: an interval after the one before came back, the deadline at last. -/
def issued : Nat → Nat
  | 0 => 0
  | i + 1 => min (issued i + (l.looks i).latency + l.interval) l.limit

/-- When a look comes back. -/
def answered (i : Nat) : Nat :=
  l.issued i + (l.looks i).latency

/-- The pause after a look, cut short at the deadline. -/
def rest (i : Nat) : Nat :=
  min l.interval (l.limit - l.answered i)

/-- The state last seen when a look is issued. -/
def lastSeen : Nat → Option TaskState
  | 0 => none
  | i + 1 => (l.looks i).seen.toOption.map Task.state

/-- The wait over time, in the state last seen. -/
def timeout (last : Option TaskState) : Error :=
  .taskTimeout l.task ((last.map TaskState.text).getD "NOT_OBSERVED")

/-- Whether the wait is over with a look, with which outcome and when. -/
def ending? (i : Nat) : Option (Except Error Task × Nat) :=
  if l.limit < l.answered i then some (.error (l.timeout (l.lastSeen i)), l.limit)
  else match (l.looks i).seen with
    | .error e => some (.error e, l.answered i)
    | .ok t =>
      match t.state with
      | .finished => some (.ok t, l.answered i)
      | .error =>
        if l.throwOnFailure then some (.error (.taskFailed l.task t.errorDetail), l.answered i)
        else some (.ok t, l.answered i)
      | state =>
        if l.answered i = l.limit then some (.error (l.timeout (some state)), l.limit) else none

/-- The first look with which the wait is over. -/
def EndsAt (i : Nat) (outcome : Except Error Task) (time : Nat) : Prop :=
  l.ending? i = some (outcome, time) ∧ ∀ j < i, l.ending? j = none

theorem issued_le (i : Nat) : l.issued i ≤ l.limit := by
  cases i with
  | zero => exact Nat.zero_le _
  | succ i => exact Nat.min_le_right _ _

/-- After a look that came back before the deadline, the next one is issued after the pause. -/
theorem issued_succ {i : Nat} (h : l.answered i ≤ l.limit) :
    l.issued (i + 1) = l.answered i + l.rest i := by
  show min (l.answered i + l.interval) l.limit = _
  unfold rest
  omega

/-- No wait lasts beyond its deadline. -/
theorem ending_le {i time : Nat} {outcome : Except Error Task}
    (h : l.ending? i = some (outcome, time)) : time ≤ l.limit := by
  unfold ending? at h
  grind

/-- A look with which the wait goes on came back before the deadline and shows a task that has
not ended. -/
theorem of_ending_eq_none {i : Nat} (h : l.ending? i = none) :
    l.answered i < l.limit ∧
      ∃ t, (l.looks i).seen = .ok t ∧ t.state ≠ .finished ∧ t.state ≠ .error := by
  unfold ending? at h
  grind

/-- Looks with which the wait goes on are an interval apart at least, until the deadline. -/
theorem le_issued (i : Nat) : min (i * l.interval) l.limit ≤ l.issued i := by
  induction i with
  | zero => simp
  | succ i ih =>
    simp only [issued, Nat.add_mul, Nat.one_mul]
    omega

/-- A look issued at the deadline is the last one. -/
theorem ending_ne_none_of_limit_le {i : Nat} (h : l.limit ≤ l.issued i) : l.ending? i ≠ none := by
  intro hnone
  have hbefore := (l.of_ending_eq_none hnone).1
  unfold answered at hbefore
  omega

/-- The first of the looks with which a wait could be over is where it is over. -/
theorem exists_endsAt_of_ne_none {n : Nat} (h : l.ending? n ≠ none) :
    ∃ i ≤ n, ∃ outcome time, l.EndsAt i outcome time := by
  have hex : ∃ i, l.ending? i ≠ none := ⟨n, h⟩
  classical
  obtain ⟨⟨outcome, time⟩, hending⟩ := Option.ne_none_iff_exists'.mp (Nat.find_spec hex)
  refine ⟨Nat.find hex, Nat.find_min' hex h, outcome, time, hending, fun j hj => ?_⟩
  exact not_not.mp (Nat.find_min hex hj)

/-- With an interval between looks the wait is over, after at most one look for each interval
begun before the deadline and one more. -/
theorem exists_endsAt (h : 0 < l.interval) :
    ∃ i outcome time, l.EndsAt i outcome time ∧ i * l.interval < l.limit + l.interval := by
  have hlast : l.limit ≤ l.issued ((l.limit + l.interval - 1) / l.interval) := by
    have hge := l.le_issued ((l.limit + l.interval - 1) / l.interval)
    have hdiv := Nat.lt_div_mul_add (a := l.limit + l.interval - 1) h
    omega
  obtain ⟨i, hi, outcome, time, hends⟩ :=
    l.exists_endsAt_of_ne_none (l.ending_ne_none_of_limit_le hlast)
  refine ⟨i, outcome, time, hends, ?_⟩
  have hmul := Nat.mul_le_mul_right l.interval hi
  have hdiv := Nat.div_mul_le_self (l.limit + l.interval - 1) l.interval
  omega

end Timeline

end CloudApi
