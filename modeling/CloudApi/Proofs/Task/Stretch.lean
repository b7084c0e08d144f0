import CloudApi.Proofs.Task.Looks

/-! Waits at a server.

Whatever calls a wait off, it is a stretch (`Stretch`): time passes, but not beyond the deadline,
and all that is sent is the request for the task. A wait that ends well has shown the task, in the
answer to its last request and in a state in which it has ended (`Shows`). Both are read off the
looks of the wait, since every GET of a server is one request (`taken_get`). -/
namespace CloudApi

/-- A stretch of a wait between two worlds. -/
structure Stretch {σ : Type} (base : Url) (version id : String) (limit : Nat)
    (w after : World σ) : Prop where
  le : w.now ≤ after.now
  le_limit : after.now ≤ limit
  sent : ∃ more, after.sent = w.sent ++ more ∧ ∀ entry ∈ more, ∃ url,
    Endpoint.task base version id = .ok url ∧ entry.2 = Server.getRequest url

/-- The last request of a stretch was answered with a task. -/
def Shows {σ : Type} (server : Server σ) (base : Url) (version id : String) (w after : World σ)
    (t : Task) : Prop :=
  ∃ url peer before time, Endpoint.task base version id = .ok url ∧ w.sent <+: before ∧
    after.sent = before ++ [(time, Server.getRequest url)] ∧
    (server peer (Server.getRequest url)).1.outcome.bind (Envelope.whole Task.record.decode) =
      .ok t ∧
    after.peer = (server peer (Server.getRequest url)).2

/-! ### The steps of a server -/

namespace Server
variable {σ : Type} (server : Server σ)

theorem timely : Timely server.transport := fun url w =>
  ⟨_, _, server.run_get url w, server.le_fetch_now url w, server.fetch_alarms url w,
    fun _ ha hnow => server.fetch_now_le url w ha hnow⟩

variable {server} {w after : World σ}

/-- A GET of a server is one request, and a body that came back is the answer of the server. -/
theorem taken_get {url : Url} {result : Except Error Json}
    (h : (Step.get url result).Taken server.transport w after) :
    after.sent = w.sent ++ [(w.now, getRequest url)] ∧
      after.peer = (server w.peer (getRequest url)).2 ∧
      ∀ body, result = .ok body → (server w.peer (getRequest url)).1.outcome = .ok body := by
  obtain ⟨alarms, last, hrun, rfl⟩ := h
  have hfetch : server.fetch url { w with alarms } = (result, last) :=
    Except.ok.inj ((server.run_get url _).symm.trans hrun)
  have hlast : last = (server.fetch url { w with alarms }).2 := by rw [hfetch]
  refine ⟨?sent, ?peer, fun body hbody => ?answer⟩
  case sent =>
    rw [hlast]
    exact server.fetch_sent url _
  case peer =>
    rw [hlast]
    exact server.fetch_peer url _
  case answer =>
    have hbody' : (server.fetch url { w with alarms }).1 = .ok body := by rw [hfetch, hbody]
    exact fetch_eq_ok (w := { w with alarms }) hbody'

/-- Steps that look at a task send nothing but requests for it. -/
theorem sent_of_steps {base : Url} {version id : String} {steps : List Step}
    (h : Steps server.transport steps w after)
    (hlooks : ∀ step ∈ steps, ∃ url result, Endpoint.task base version id = .ok url ∧
      step = .get url result) :
    ∃ more, after.sent = w.sent ++ more ∧ ∀ entry ∈ more, ∃ url,
      Endpoint.task base version id = .ok url ∧ entry.2 = getRequest url := by
  induction h with
  | done w => exact ⟨[], (List.append_nil _).symm, fun _ h => absurd h List.not_mem_nil⟩
  | paused _ _ ih => exact ih hlooks
  | @next _ _ w _ _ htaken _ ih =>
    obtain ⟨⟨url, result, hurl, rfl⟩, hlater⟩ := List.forall_mem_cons.mp hlooks
    obtain ⟨more, hmore, hasks⟩ := ih hlater
    obtain ⟨hsent, -, -⟩ := taken_get htaken
    refine ⟨(w.now, getRequest url) :: more, ?_, List.forall_mem_cons.mpr ⟨⟨url, hurl, rfl⟩, hasks⟩⟩
    rw [hmore, hsent, List.append_assoc]
    rfl

end Server

/-- The last look of a wait that saw a task shows it. -/
theorem Waiter.Looks.shows {σ : Type} {server : Server σ} {base : Url} {version id : String}
    {steps : List Step} {seen : Except Error Task} {w after : World σ}
    (h : Waiter.Looks base version id steps seen) (hsteps : Steps server.transport steps w after) :
    ∀ t, seen = .ok t → Shows server base version id w after t := by
  induction h generalizing w with
  | stops => exact fun _ ht => by cases ht
  | fails => exact fun _ ht => by cases ht
  | @ends url result task here shows _ =>
    intro t ht
    obtain rfl := Except.ok.inj ht
    obtain ⟨now, mid, htaken, hrest⟩ := hsteps.of_cons
    obtain ⟨now', rfl⟩ := hrest.of_nil
    obtain ⟨hsent, hpeer, hanswer⟩ := Server.taken_get htaken
    refine ⟨url, w.peer, w.sent, now, here, List.prefix_rfl, hsent, ?_, hpeer⟩
    cases result with
    | error e => cases shows
    | ok body =>
      rw [hanswer body rfl]
      exact shows
  | goesOn _ _ _ _ ih =>
    intro t ht
    obtain ⟨now, mid, htaken, hrest⟩ := hsteps.of_cons
    obtain ⟨hsent, -, -⟩ := Server.taken_get htaken
    obtain ⟨url, peer, before, time, hurl, hprefix, hlast⟩ := ih hrest t ht
    exact ⟨url, peer, before, time, hurl, .trans ⟨_, hsent.symm⟩ hprefix, hlast⟩

namespace Waiter
variable {σ : Type} {server : Server σ} {base : Url} {version id : String} {options : WaitOptions}
  {rounds : Nat} {w after : World σ} {steps : List Step} {seen : Except Error Task}

theorem Awaited.stretch
    (h : Awaited options ⟨server.transport, base, version⟩ rounds id w steps seen after) :
    Stretch base version id (w.now + options.timeout.toNanos) w after :=
  ⟨h.le, h.le_limit, Server.sent_of_steps h.steps h.looks.eq_get⟩

/-! ### The rounds and the clock that waits need -/

/-- Whether waits that begin by some moment have the rounds and the clock they need: the pauses
between the looks cover the timeout, and the far future and the bounds of the pauses are on the
clock. -/
def Ample (options : WaitOptions) (rounds latest : Nat) : Prop :=
  (∃ k < rounds, options.timeout.toNanos ≤ k * options.pollInterval.toNanos) ∧
    latest + farFuture ≤ Session.lastMoment ∧
    latest + options.timeout.toNanos + options.pollInterval.toNanos ≤ Session.lastMoment

theorem Short.not_ample {latest : Nat} {why : Halt} (h : Short options rounds latest why) :
    ¬ Ample options rounds latest := by
  rintro ⟨⟨k, hk, hcover⟩, hfar, hclock⟩
  cases why with
  | unfinished => exact absurd (h k hk) (Nat.not_lt.mpr hcover)
  | overflow => rcases h with h | h <;> omega

/-- Looks every four seconds for ten seconds are within four rounds. -/
example : Ample ⟨.ofSeconds 10, .ofSeconds 4, true, none⟩ 4 0 :=
  ⟨⟨3, by decide, by decide⟩, by decide, by decide⟩

end Waiter

end CloudApi
