import CloudApi.Proofs.Task.Cancel
import CloudApi.Proofs.Task.Settle

/-! Waiting for the same again.

A cancellation has one effect on a wait only: if it comes before the wait would be over, the wait is
called off instead (`Cut`). Apart from that a wait goes by the answers about its task: where they
are the same (`Server.Alike`), a wait that begins later looks at the same times after its beginning
and comes to the same end (`Polled.again`). -/
namespace CloudApi

namespace Waiter
variable {σ α β : Type}

/-! ### A cancellation or none -/

/-- Whether a wait is called off by a time. -/
def Fired (cancel : Option Cancellation) (now : Nat) : Prop :=
  cancel.any (·.past now) = true

theorem Fired.mono {cancel : Option Cancellation} {now now' : Nat} (h : Fired cancel now)
    (hle : now ≤ now') : Fired cancel now' := by
  unfold Fired at h ⊢
  cases cancel with
  | none => exact h
  | some c =>
    cases c with
    | due time =>
      simp only [Option.any_some, Cancellation.past, decide_eq_true_eq] at h ⊢
      omega
    | _ => exact h

/-- How a wait under a cancellation goes, by how it goes without it: the same way if it is over
before it is called off, and otherwise it is called off. -/
inductive Cut (id : String) (cancel : Option Cancellation)
    (plain cut : Except Halt (Except Error α × World σ)) : Prop where
  | same (eq : cut = plain)
    (early : ∀ outcome after, plain = .ok (outcome, after) → ¬ Fired cancel after.now)
  | calledOff {last : World σ} (eq : cut = .ok (.error (.cancelled id), last))
    (late : ∀ outcome after, plain = .ok (outcome, after) → Fired cancel after.now)

section Cut
variable {id : String} {cancel : Option Cancellation} {limit : Nat} {options : WaitOptions}
  {last : Option TaskState} {part : Session σ β} {w mid : World σ} {seen : Except Error β}
  {asked : List (Nat × Request)}

/-- What takes no time is not called off. -/
theorem cut_of_run {wait : Option Cancellation → Session σ α} {outcome : Except Error α}
    (h : ∀ cancel, Session.run (wait cancel) w = .ok (outcome, w)) (hfired : ¬ Fired cancel w.now) :
    Cut id cancel (Session.run (wait none) w) (Session.run (wait cancel) w) := by
  refine .same ((h cancel).trans (h none).symm) fun ended after hrun => ?_
  obtain ⟨-, rfl⟩ := Prod.mk.inj (Except.ok.inj ((h none).symm.trans hrun))
  exact hfired

/-- A part of a wait comes to what it comes to under no cancellation, or is called off in it. -/
theorem Under.run_bounded_cases (cancel : Option Cancellation)
    (h : Under (alarms id limit { options with cancel := none } last) part w seen asked mid) :
    (¬ Fired cancel mid.now ∧
      Session.run (bounded id limit { options with cancel } last part) w = .ok (seen, mid)) ∨
    Fired cancel mid.now ∧ ∃ after,
      Session.run (bounded id limit { options with cancel } last part) w =
        .ok (.error (.cancelled id), after) := by
  by_cases hpast : Fired cancel w.now
  · exact .inr ⟨hpast.mono h.le, w, (Waiter.run_bounded _ _ _ _ _ w).trans (if_pos hpast)⟩
  cases cancel with
  | none => exact .inl ⟨nofun, h.run_bounded_none⟩
  | some c =>
    cases c with
    | never => exact .inl ⟨nofun, h.run_bounded_none⟩
    | already => exact absurd rfl hpast
    | due time =>
      simp only [Fired, Option.any_some, Cancellation.past, decide_eq_true_eq] at hpast ⊢
      have hpart := Under.run_bounded h (Nat.not_lt.mp hpast)
      by_cases hle : mid.now ≤ time
      · rw [if_pos hle] at hpart
        exact .inl ⟨by omega, hpart⟩
      · rw [if_neg hle] at hpart
        exact .inr ⟨by omega, _, hpart⟩

/-- **A part that is called off is the end of the wait**, and one that is not leaves the rest to be
cut. -/
theorem Cut.bind (rest : Option Cancellation → β → Session σ α)
    (h : Under (alarms id limit { options with cancel := none } last) part w seen asked mid)
    (hle : ∀ b, seen = .ok b → ∀ outcome after, Session.run (rest none b) mid =
      .ok (outcome, after) → mid.now ≤ after.now)
    (hrest : ∀ b, seen = .ok b → ¬ Fired cancel mid.now →
      Cut id cancel (Session.run (rest none b) mid) (Session.run (rest cancel b) mid)) :
    Cut id cancel
      (Session.run (bounded id limit { options with cancel := none } last part >>= rest none) w)
      (Session.run (bounded id limit { options with cancel } last part >>= rest cancel) w) := by
  have hplain := h.run_bounded_none
  rcases h.run_bounded_cases cancel with ⟨hfired, hpart⟩ | ⟨hfired, last, hpart⟩
  · cases seen with
    | error e =>
      rw [Session.run_bind_error hplain, Session.run_bind_error hpart]
      refine .same rfl fun outcome after hrun => ?_
      cases hrun
      exact hfired
    | ok b =>
      rw [Session.run_bind_ok hplain, Session.run_bind_ok hpart]
      exact hrest b rfl hfired
  · refine .calledOff (Session.run_bind_error hpart) fun outcome after hrun => hfired.mono ?_
    cases seen with
    | error e =>
      rw [Session.run_bind_error hplain] at hrun
      cases hrun
      exact le_rfl
    | ok b =>
      rw [Session.run_bind_ok hplain] at hrun
      exact hle b rfl outcome after hrun

end Cut

section Rounds
variable (server : Server σ) (base : Url) (version id : String) (options : WaitOptions)
  (cancel : Option Cancellation) (limit : Nat)

theorem cut_goOn {rounds : Nat}
    (hpoll : ∀ last (w : World σ), Cut id cancel
      (Session.run (pollUnder server base version id options limit rounds last none) w)
      (Session.run (pollUnder server base version id options limit rounds last cancel) w))
    (task : Task) {w : World σ} (hfired : ¬ Fired cancel w.now) :
    let rest cancel :=
      goOn ⟨server.transport, base, version⟩ id { options with cancel } limit rounds task
    Cut id cancel (Session.run (rest none) w) (Session.run (rest cancel) w) := by
  intro rest
  -- what there is to decide does not depend on the cancellation
  cases hverdict : verdict id options task with
  | some outcome =>
    have hrest (cancel : Option Cancellation) : Session.run (rest cancel) w = .ok (outcome, w) := by
      rw [run_goOn, show verdict id { options with cancel } task = some outcome from hverdict]
    exact cut_of_run hrest hfired
  | none =>
    have hrest (cancel : Option Cancellation) : Session.run (rest cancel) w =
        if limit ≤ w.now then .ok (.error (timedOut id (some task.state)), w)
        else if limit + pause w.now limit options ≤ Session.lastMoment then
          Session.run (bounded id (limit + pause w.now limit options) { options with cancel }
            (some task.state) (Session.pass (pause w.now limit options)) >>= fun _ =>
            pollUnder server base version id options limit rounds (some task.state) cancel) w
        else .error .overflow := by
      rw [run_goOn, show verdict id { options with cancel } task = none from hverdict]
      rfl
    by_cases hover : limit ≤ w.now
    · simp only [if_pos hover] at hrest
      exact cut_of_run hrest hfired
    by_cases hclock : limit + pause w.now limit options ≤ Session.lastMoment
    · simp only [if_neg hover, if_pos hclock] at hrest
      rw [hrest, hrest]
      obtain ⟨passed, rested, hpart⟩ := exists_under_pass
        (alarms id (limit + pause w.now limit options) { options with cancel := none }
          (some task.state)) (pause w.now limit options) w
      refine Cut.bind (fun cancel _ => pollUnder server base version id options limit rounds
        (some task.state) cancel) hpart (fun _ _ outcome after hrun => ?_)
        fun _ _ _ => hpoll _ rested
      obtain ⟨_, hcalled⟩ := calledOff_poll hrun
      exact hcalled.le
    · simp only [if_neg hover, if_neg hclock] at hrest
      rw [hrest, hrest]
      exact .same rfl fun _ _ hrun => by cases hrun

theorem cut_poll (rounds : Nat) (last : Option TaskState) (w : World σ) : Cut id cancel
      (Session.run (pollUnder server base version id options limit rounds last none) w)
      (Session.run (pollUnder server base version id options limit rounds last cancel) w) := by
  induction rounds generalizing last w with
  | zero => exact .same rfl fun _ _ hrun => by cases hrun
  | succ rounds ih =>
    obtain ⟨seen, asked, mid, hlook⟩ := exists_under_getTask server base version id
      (alarms id limit { options with cancel := none } last) w
    refine Cut.bind (fun cancel task => goOn ⟨server.transport, base, version⟩ id
      { options with cancel } limit rounds task) hlook (fun task _ outcome after hrun => ?_)
      fun task _ => cut_goOn server base version id options cancel limit ih task
    obtain ⟨_, hcalled⟩ := calledOff_goOn calledOff_poll hrun
    exact hcalled.le

/-- **A cancellation calls a wait off or changes nothing.** -/
theorem cut_wait (rounds : Nat) (w : World σ) : Cut id cancel
    (Session.run (waitUnder server base version id options rounds none) w)
    (Session.run (waitUnder server base version id options rounds cancel) w) := by
  have hwait (cancel : Option Cancellation) :
      Session.run (waitUnder server base version id options rounds cancel) w =
        if w.now + farFuture ≤ Session.lastMoment then
          Session.run (pollUnder server base version id options
            (w.now + allowed w.now options.timeout) rounds none cancel) w
        else .error .overflow := run_waitForTask w _ rounds
  rw [hwait, hwait]
  split
  · exact cut_poll server base version id options cancel _ rounds none w
  · exact .same rfl fun _ _ hrun => by cases hrun

end Rounds

end Waiter

/-! ### The same answers -/

namespace Server
variable {σ : Type} (server : Server σ)

/-- The peer after requests. -/
def afterAll (p : σ) (requests : List Request) : σ :=
  requests.foldl (fun p r => (server p r).2) p

/-- Peers that a server answers alike for, as long as it is asked for nothing else. -/
def Alike (asks : Request → Prop) (p q : σ) : Prop :=
  ∀ requests, (∀ r ∈ requests, asks r) → ∀ r, asks r →
    (server (server.afterAll p requests) r).1 = (server (server.afterAll q requests) r).1

variable {server} {asks asks' : Request → Prop} {p q s : σ} {r : Request}

theorem Alike.refl (asks : Request → Prop) (p : σ) : server.Alike asks p p :=
  fun _ _ _ _ => rfl

theorem Alike.trans (h : server.Alike asks p q) (h' : server.Alike asks q s) :
    server.Alike asks p s :=
  fun requests hrequests r hr => (h requests hrequests r hr).trans (h' requests hrequests r hr)

theorem Alike.mono (h : server.Alike asks p q) (hsub : ∀ r, asks' r → asks r) :
    server.Alike asks' p q :=
  fun requests hrequests r hr => h requests (fun r hr => hsub r (hrequests r hr)) r (hsub r hr)

theorem Alike.step (h : server.Alike asks p q) (hr : asks r) :
    server.Alike asks (server p r).2 (server q r).2 :=
  fun requests hrequests => h (r :: requests) (List.forall_mem_cons.mpr ⟨hr, hrequests⟩)

theorem Alike.again (h : server.Alike asks p q) (hr : asks r) (n : Nat) :
    server.Alike asks (server.again r p n) (server.again r q n) := by
  induction n with
  | zero => exact h
  | succ n ih => exact ih.step hr

theorem Alike.answerAt (h : server.Alike asks p q) (hr : asks r) (n : Nat) :
    server.answerAt r p n = server.answerAt r q n :=
  h.again hr n [] (List.forall_mem_nil _) r hr

end Server

/-! ### The same looks -/

/-- A wait that saw its task: the times of its looks and its end, counted from its beginning. -/
structure Turn where
  id : String
  looks : List Nat
  span : Nat
  task : Task

namespace Waiter
variable {σ : Type} (server : Server σ) (base : Url) (version : String) (options : WaitOptions)
  (rounds : Nat)

/-- A wait that goes as its turn says. -/
structure Polled (turn : Turn) (w after : World σ) : Prop where
  run : Session.run (waitForTask ⟨server.transport, base, version⟩ rounds turn.id options) w =
    .ok (.ok turn.task, after)
  now_eq : after.now = w.now + turn.span
  sent : ∃ url, Endpoint.task base version turn.id = .ok url ∧
    after.sent = w.sent ++ turn.looks.map fun look => (w.now + look, Server.getRequest url)
  shows : Shows server base version turn.id w after turn.task ∧
    (turn.task.state = .finished ∨ turn.task.state = .error)

variable {server base version options rounds} {id : String} {task : Task} {turn : Turn}
  {w w' after : World σ}

/-- A wait that sees its task is one that nothing calls off, and not called off by its end. -/
theorem run_ok_iff :
    Session.run (waitForTask ⟨server.transport, base, version⟩ rounds id options) w =
      .ok (.ok task, after) ↔
    Session.run (waitUnder server base version id options rounds none) w = .ok (.ok task, after) ∧
      ¬ Fired options.cancel after.now := by
  change Session.run (waitUnder server base version id options rounds options.cancel) w = _ ↔ _
  cases cut_wait server base version id options options.cancel rounds w with
  | same eq early =>
    rw [eq]
    exact (and_iff_left_of_imp fun hrun => early _ _ hrun).symm
  | calledOff eq late =>
    rw [eq]
    refine iff_of_false (fun h => by cases h) ?_
    rintro ⟨hrun, hfired⟩
    exact hfired (late _ _ hrun)

theorem judged_eq_ok {throws : Bool} {seen : Except Error Task}
    (h : judged id throws seen = .ok task) : seen = .ok task := by
  cases seen with
  | error e => cases h
  | ok t =>
    change (if t.state = .error ∧ throws then _ else _) = _ at h
    split at h
    · cases h
    · exact h

/-- A wait that sees its task was shown it. -/
theorem shows_of_run (h : Session.run (waitForTask ⟨server.transport, base, version⟩ rounds id
    options) w = .ok (.ok task, after)) :
    Shows server base version id w after task ∧ (task.state = .finished ∨ task.state = .error) := by
  rcases watched_or_halted server base version options rounds id (le_refl w.now) with
    ⟨seen, last, hwatched⟩ | ⟨-, why, hhalts⟩
  · have hrun := hwatched.run options.throwOnFailure
    obtain ⟨hseen, rfl⟩ := Prod.mk.inj (Except.ok.inj (hrun.symm.trans h))
    exact hwatched.shows task (judged_eq_ok hseen)
  · cases (hhalts options.throwOnFailure).symm.trans h

/-- The timeline of a wait that nothing calls off. -/
def plainly (server : Server σ) (url : Url) (id : String) (options : WaitOptions) (w : World σ) :
    Timeline :=
  timeline server url id { options with cancel := none } w.peer (allowed w.now options.timeout)

/-- A wait that nothing calls off sees its task just if its timeline ends so within its rounds and
on the clock. -/
theorem run_plain_ok_iff :
    Session.run (waitUnder server base version id options rounds none) w = .ok (.ok task, after) ↔
      ∃ url n time, Endpoint.task base version id = .ok url ∧ n < rounds ∧
        (plainly server url id options w).EndsAt n (.ok task) time ∧
        (plainly server url id options w).InRange w.now n ∧
        after = worldAt server url (plainly server url id options w) w (n + 1) time := by
  constructor
  · intro h
    obtain ⟨⟨url, _, _, _, hurl, -⟩, -⟩ := shows_of_run h
    by_cases hgoing : ∀ j < rounds, (plainly server url id options w).ending? j = none
    · by_cases hrange : (plainly server url id options w).InRange w.now rounds
      · cases h.symm.trans
          (run_waitForTask_of_going server hurl (.inl rfl) w rounds hgoing hrange)
      · cases h.symm.trans
          (run_waitForTask_of_not_inRange server hurl (.inl rfl) w le_rfl hgoing hrange)
    · obtain ⟨n, hgoing⟩ := not_forall.mp hgoing
      obtain ⟨hn, hending⟩ := Classical.not_imp.mp hgoing
      obtain ⟨i, hi, outcome, time, hends⟩ := Timeline.exists_endsAt_of_ne_none _ hending
      have hrounds := Nat.lt_of_le_of_lt hi hn
      by_cases hrange : (plainly server url id options w).InRange w.now i
      · have hrun := run_waitForTask_of_endsAt server hurl (.inl rfl) w hrounds hends hrange
        obtain ⟨rfl, rfl⟩ := Prod.mk.inj (Except.ok.inj (hrun.symm.trans h))
        exact ⟨url, i, time, hurl, hrounds, hends, hrange, rfl⟩
      · cases h.symm.trans
          (run_waitForTask_of_not_inRange server hurl (.inl rfl) w hrounds.le hends.2 hrange)
  · rintro ⟨url, n, time, hurl, hn, hends, hrange, rfl⟩
    exact run_waitForTask_of_endsAt server hurl (.inl rfl) w hn hends hrange

/-- The turn that a timeline tells. -/
def turnOf (l : Timeline) (n time : Nat) (task : Task) : Turn :=
  ⟨l.task, (List.range (n + 1)).map l.issued, time, task⟩

theorem polled_of_run {url : Url} (l : Timeline) {n time : Nat}
    (hurl : Endpoint.task base version l.task = .ok url)
    (hrun : Session.run (waitForTask ⟨server.transport, base, version⟩ rounds l.task options) w =
      .ok (.ok task, worldAt server url l w (n + 1) time)) :
    Polled server base version options rounds (turnOf l n time task) w
      (worldAt server url l w (n + 1) time) where
  run := hrun
  now_eq := rfl
  sent := ⟨url, hurl, by rw [turnOf, List.map_map]; rfl⟩
  shows := shows_of_run hrun

theorem exists_polled (h : Session.run (waitForTask ⟨server.transport, base, version⟩ rounds id
    options) w = .ok (.ok task, after)) :
    ∃ turn, turn.id = id ∧ turn.task = task ∧
      Polled server base version options rounds turn w after := by
  obtain ⟨url, n, time, hurl, -, -, -, rfl⟩ := run_plain_ok_iff.mp (run_ok_iff.mp h).1
  exact ⟨_, rfl, rfl, polled_of_run (plainly server url id options w) hurl h⟩

/-- A turn is the one that the timeline of its wait tells. -/
theorem Polled.eq_turnOf (h : Polled server base version options rounds turn w after) :
    ∃ url n time, Endpoint.task base version turn.id = .ok url ∧ n < rounds ∧
      (plainly server url turn.id options w).EndsAt n (.ok turn.task) time ∧
      after = worldAt server url (plainly server url turn.id options w) w (n + 1) time ∧
      turn = turnOf (plainly server url turn.id options w) n time turn.task := by
  obtain ⟨url, n, time, hurl, hn, hends, -, rfl⟩ := run_plain_ok_iff.mp (run_ok_iff.mp h.run).1
  obtain ⟨id, looks, span, task⟩ := turn
  obtain ⟨url', hurl', hsent⟩ := h.sent
  obtain rfl : url = url' := Except.ok.inj (hurl.symm.trans hurl')
  have hspan : time = span := Nat.add_left_cancel h.now_eq
  have hlooks : (List.range (n + 1)).map (plainly server url id options w).issued = looks := by
    have hinj (look look' : Nat) (heq : (w.now + look, Server.getRequest url) =
        (w.now + look', Server.getRequest url)) : look = look' :=
      Nat.add_left_cancel (Prod.mk.inj heq).1
    rw [← List.map_inj_right hinj, List.map_map]
    exact List.append_cancel_left hsent
  exact ⟨url, n, time, hurl, hn, hends, rfl, by rw [turnOf, hlooks, hspan]; rfl⟩

theorem Polled.alarms_eq (h : Polled server base version options rounds turn w after) :
    after.alarms = w.alarms := by
  obtain ⟨_, _, _, -, -, -, rfl, -⟩ := h.eq_turnOf
  rfl

/-- Whether a wait that begins at a moment has the clock it needs. -/
def OnClock (options : WaitOptions) (now : Nat) : Prop :=
  now + farFuture ≤ Session.lastMoment ∧
    now + options.timeout.toNanos + options.pollInterval.toNanos ≤ Session.lastMoment

/-- The requests for tasks. -/
def AsksFor (base : Url) (version : String) (ids : List String) (r : Request) : Prop :=
  ∃ id ∈ ids, ∃ url, Endpoint.task base version id = .ok url ∧ r = Server.getRequest url

/-- **With the same answers a wait goes the same way at a later time**, unless it is called off. -/
theorem Polled.again {ids : List String}
    (h : Polled server base version options rounds turn w after) (hmem : turn.id ∈ ids)
    (halike : server.Alike (AsksFor base version ids) w.peer w'.peer) (hle : w.now ≤ w'.now)
    (hclock : OnClock options w'.now) :
    (∃ after', Polled server base version options rounds turn w' after' ∧
      server.Alike (AsksFor base version ids) after.peer after'.peer) ∨
    Fired options.cancel (w'.now + turn.span) ∧ ∃ last,
      Session.run (waitForTask ⟨server.transport, base, version⟩ rounds turn.id options) w' =
        .ok (.error (.cancelled turn.id), last) := by
  obtain ⟨url, n, time, hurl, hn, hends, rfl, hturn⟩ := h.eq_turnOf
  have hasks : AsksFor base version ids (Server.getRequest url) := ⟨turn.id, hmem, url, hurl, rfl⟩
  obtain ⟨hfar, hpauses⟩ := hclock
  have hallowed {now : Nat} (hnow : now ≤ w'.now) :
      allowed now options.timeout = options.timeout.toNanos := if_pos (by omega)
  have hlimit : (plainly server url turn.id options w').limit = options.timeout.toNanos :=
    hallowed le_rfl
  have hsame : plainly server url turn.id options w' = plainly server url turn.id options w := by
    unfold plainly timeline
    rw [hallowed le_rfl, hallowed hle]
    simp only [halike.answerAt hasks]
  have hrange : (plainly server url turn.id options w').InRange w'.now n := by
    refine ⟨hfar, fun i _ => ?_⟩
    have hrest : (plainly server url turn.id options w').rest i ≤ options.pollInterval.toNanos :=
      Nat.min_le_left _ _
    omega
  rw [← hsame] at hends hturn
  have hplain := run_plain_ok_iff.mpr ⟨url, n, time, hurl, hn, hends, hrange, rfl⟩
  have hspan : time = turn.span := by rw [hturn]; rfl
  change _ ∨ _ ∧ ∃ last,
    Session.run (waitUnder server base version turn.id options rounds options.cancel) w' = _
  cases cut_wait server base version turn.id options options.cancel rounds w' with
  | same eq early =>
    have hpolled := polled_of_run (plainly server url turn.id options w') hurl (eq.trans hplain)
    rw [← hturn] at hpolled
    exact .inl ⟨_, hpolled, halike.again hasks (n + 1)⟩
  | calledOff eq late =>
    refine .inr ⟨?_, _, eq⟩
    rw [← hspan]
    exact late _ _ hplain

end Waiter

end CloudApi
