import CloudApi.Session
import Mathlib.Order.Nat

/-! What sessions come to.

`Session.run` is computed along the way a session is built (`run_bind` and the lemmas beside
it), so that no proof opens the layers of a session. A server that carries requests is total:
a GET comes to `Server.fetch`, which records the request, lets the server act and then lets the
latency pass, or ends in the first alarm before the answer. -/
namespace CloudApi

namespace Alarm

/-- The earlier of two alarms, the first one if they go off together. -/
def earlier (best : Option Alarm) (a : Alarm) : Option Alarm :=
  match best with
  | some b => if a.time < b.time then some a else some b
  | none => some a

theorem foldl_earlier (alarms : List Alarm) (b : Alarm) :
    ∃ a, alarms.foldl earlier (some b) = some a ∧ (a = b ∨ a ∈ alarms) ∧ a.time ≤ b.time ∧
      ∀ c ∈ alarms, a.time ≤ c.time := by
  induction alarms generalizing b with
  | nil => exact ⟨b, rfl, .inl rfl, le_rfl, fun c hc => absurd hc List.not_mem_nil⟩
  | cons c alarms ih =>
    by_cases hc : c.time < b.time
    · obtain ⟨a, hfold, hmem, hle, hleast⟩ := ih c
      refine ⟨a, ?_, .inr (List.mem_cons.mpr hmem), hle.trans hc.le,
        List.forall_mem_cons.mpr ⟨hle, hleast⟩⟩
      rw [List.foldl_cons, earlier, if_pos hc, hfold]
    · obtain ⟨a, hfold, hmem, hle, hleast⟩ := ih b
      refine ⟨a, ?_, hmem.imp_right (List.mem_cons_of_mem c), hle,
        List.forall_mem_cons.mpr ⟨hle.trans (Nat.not_lt.mp hc), hleast⟩⟩
      rw [List.foldl_cons, earlier, if_neg hc, hfold]

/-- No alarm goes off before the moment, or the first one does, and none goes off before it. -/
theorem first?_cases (alarms : List Alarm) (moment : Nat) :
    (first? alarms moment = none ∧ ∀ a ∈ alarms, moment ≤ a.time) ∨
      ∃ a ∈ alarms, first? alarms moment = some a ∧ a.time < moment ∧
        ∀ b ∈ alarms, a.time ≤ b.time := by
  have hfirst : first? alarms moment = (alarms.filter (·.time < moment)).foldl earlier none := rfl
  rw [hfirst]
  cases hbefore : alarms.filter (·.time < moment) with
  | nil =>
    refine .inl ⟨rfl, fun a ha => ?_⟩
    simpa using List.filter_eq_nil_iff.mp hbefore a ha
  | cons c rest =>
    obtain ⟨a, hfold, hmem, hle, hleast⟩ := foldl_earlier rest c
    have ha : a ∈ alarms.filter (·.time < moment) := hbefore ▸ List.mem_cons.mpr hmem
    rw [List.mem_filter, decide_eq_true_eq] at ha
    refine .inr ⟨a, ha.1, hfold, ha.2, fun b hb => ?_⟩
    by_cases hlate : b.time < moment
    · have hb' : b ∈ c :: rest := hbefore ▸ List.mem_filter.mpr ⟨hb, decide_eq_true hlate⟩
      rcases List.mem_cons.mp hb' with rfl | hb'
      · exact hle
      · exact hleast b hb'
    · exact ha.2.le.trans (Nat.not_lt.mp hlate)

end Alarm

theorem exists_of_map_eq_ok {ε α β : Type} {x : Except ε α} {f : α → β} {b : β}
    (h : x.map f = .ok b) : ∃ a, x = .ok a ∧ f a = b := by
  cases x with
  | error e => cases h
  | ok a => exact ⟨a, rfl, Except.ok.inj h⟩

namespace Session
variable {σ α β : Type}

@[simp] theorem run_pure (a : α) (w : World σ) : run (pure a) w = .ok (.ok a, w) := rfl

@[simp] theorem run_throw (e : Error) (w : World σ) :
    run (throw e : Session σ α) w = .ok (.error e, w) := rfl

@[simp] theorem run_halt (why : Halt) (w : World σ) :
    run (halt why : Session σ α) w = .error why := rfl

@[simp] theorem run_now (w : World σ) : run now w = .ok (.ok w.now, w) := rfl

@[simp] theorem run_ofExcept (outcome : Except Error α) (w : World σ) :
    run (ofExcept outcome) w = .ok (outcome, w) := rfl

/-- What follows a part that came to something: the rest, if that was no error. -/
def runRest (rest : α → Session σ β) :
    Except Error α × World σ → Except Halt (Except Error β × World σ)
  | (.ok a, after) => run (rest a) after
  | (.error e, after) => .ok (.error e, after)

theorem run_bind (part : Session σ α) (rest : α → Session σ β) (w : World σ) :
    run (part >>= rest) w = (run part w).bind (runRest rest) := by
  change (part w).bind (fun ended => ExceptT.bindCont rest ended.1 ended.2) = _
  unfold run
  cases part w with
  | error why => rfl
  | ok ended =>
    obtain ⟨outcome, after⟩ := ended
    cases outcome <;> rfl

theorem run_bind_ok {part : Session σ α} {rest : α → Session σ β} {w after : World σ} {a : α}
    (h : run part w = .ok (.ok a, after)) : run (part >>= rest) w = run (rest a) after := by
  rw [run_bind, h]
  rfl

theorem run_bind_error {part : Session σ α} {rest : α → Session σ β} {w after : World σ}
    {e : Error} (h : run part w = .ok (.error e, after)) :
    run (part >>= rest) w = .ok (.error e, after) := by
  rw [run_bind, h]
  rfl

theorem run_bind_halt {part : Session σ α} {rest : α → Session σ β} {w : World σ} {why : Halt}
    (h : run part w = .error why) : run (part >>= rest) w = .error why := by
  rw [run_bind, h]
  rfl

/-- A value that is only changed afterwards. -/
theorem run_bind_pure (part : Session σ α) (f : α → β) (w : World σ) :
    run (part >>= fun a => (pure (f a) : Session σ β)) w =
      (run part w).map fun (outcome, after) => (outcome.map f, after) := by
  rw [run_bind]
  rcases run part w with why | ⟨e | a, after⟩ <;> rfl

theorem run_ite (p : Prop) [Decidable p] (yes no : Session σ α) (w : World σ) :
    run (if p then yes else no) w = if p then run yes w else run no w := by
  split <;> rfl

@[simp] theorem run_within (alarms : List Alarm) (part : Session σ α) (w : World σ) :
    run (within alarms part) w =
      (run part { w with alarms }).map fun (outcome, after) =>
        (outcome, { after with alarms := w.alarms }) := rfl

@[simp] theorem run_attempt (part : Session σ α) (w : World σ) :
    run (attempt part) w = (run part w).map fun (outcome, after) => (.ok outcome, after) := rfl

@[simp] theorem run_later (moment span : Nat) (w : World σ) :
    run (later moment span) w =
      if moment + span ≤ lastMoment then .ok (.ok (moment + span), w) else .error .overflow := by
  rw [later, run_ite]
  rfl

/-- Time passes in full, or up to the alarm that goes off first. -/
theorem run_pass (span : Nat) (w : World σ) :
    run (pass span) w =
      match Alarm.first? w.alarms (w.now + span) with
      | none => .ok (.ok (), { w with now := w.now + span })
      | some a => .ok (.error a.error, { w with now := max w.now a.time }) := by
  unfold pass
  rw [run_bind_ok (rfl : run get w = .ok (.ok w, w))]
  cases Alarm.first? w.alarms (w.now + span) <;> rfl

/-- Time does not pass for longer than the span. -/
theorem exists_run_pass (span : Nat) (w : World σ) :
    ∃ outcome now, run (pass span) w = .ok (outcome, { w with now }) ∧ w.now ≤ now ∧
      now ≤ w.now + span ∧ (outcome = .ok () → now = w.now + span) := by
  rw [run_pass]
  rcases Alarm.first?_cases w.alarms (w.now + span) with ⟨hnone, -⟩ | ⟨a, -, hsome, hlt, -⟩
  · rw [hnone]
    exact ⟨_, _, rfl, Nat.le_add_right _ _, le_rfl, fun _ => rfl⟩
  · rw [hsome]
    exact ⟨_, _, rfl, Nat.le_max_left _ _, Nat.max_le.mpr ⟨Nat.le_add_right _ _, hlt.le⟩,
      fun h => by cases h⟩

end Session

/-- Time goes on between two worlds under the same alarms, and none that was still to come is
passed by. -/
structure Elapsed {σ : Type} (w after : World σ) : Prop where
  le : w.now ≤ after.now
  alarms_eq : after.alarms = w.alarms
  now_le : ∀ a ∈ w.alarms, w.now ≤ a.time → after.now ≤ a.time

namespace Elapsed
variable {σ : Type} {w mid after : World σ}

theorem refl (w : World σ) : Elapsed w w :=
  ⟨le_rfl, rfl, fun _ _ h => h⟩

theorem trans (h : Elapsed w mid) (h' : Elapsed mid after) : Elapsed w after :=
  ⟨h.le.trans h'.le, h'.alarms_eq.trans h.alarms_eq, fun a ha hle =>
    h'.now_le a (h.alarms_eq ▸ ha) (h.now_le a ha hle)⟩

/-- Up to a moment that no alarm comes before. -/
theorem of_first?_eq_none {moment : Nat} (h : Alarm.first? w.alarms moment = none)
    (hle : w.now ≤ moment) (hnow : after.now = moment) (halarms : after.alarms = w.alarms) :
    Elapsed w after := by
  rcases Alarm.first?_cases w.alarms moment with ⟨-, hlate⟩ | ⟨a, -, hsome, -⟩
  · exact ⟨hnow ▸ hle, halarms, fun a ha _ => hnow ▸ hlate a ha⟩
  · rw [h] at hsome
    cases hsome

/-- Up to the alarm that goes off first. -/
theorem of_first?_eq_some {moment : Nat} {a : Alarm} (h : Alarm.first? w.alarms moment = some a)
    (hnow : after.now = max w.now a.time) (halarms : after.alarms = w.alarms) :
    Elapsed w after := by
  rcases Alarm.first?_cases w.alarms moment with ⟨hnone, -⟩ | ⟨b, -, hsome, -, hleast⟩
  · rw [h] at hnone
    cases hnone
  · obtain rfl : a = b := Option.some.inj (h.symm.trans hsome)
    exact ⟨hnow ▸ Nat.le_max_left _ _, halarms, fun c hc hle =>
      hnow ▸ Nat.max_le.mpr ⟨hle, hleast c hc⟩⟩

end Elapsed

/-- One alarm is the first if it comes before the moment. -/
theorem Alarm.first?_singleton (a : Alarm) (moment : Nat) :
    Alarm.first? [a] moment = if a.time < moment then some a else none := by
  by_cases h : a.time < moment <;> simp [Alarm.first?, h]

namespace Server
variable {σ : Type}

def getRequest (url : Url) : Request :=
  ⟨.get, url, [], none⟩

/-- What a GET comes to, and the world after it. -/
def fetch (server : Server σ) (url : Url) (w : World σ) : Except Error Json × World σ :=
  let (answer, peer) := server w.peer (getRequest url)
  let asked := { w with sent := w.sent ++ [(w.now, getRequest url)], peer }
  match Alarm.first? w.alarms (w.now + answer.latency) with
  | none => (answer.outcome, { asked with now := w.now + answer.latency })
  | some a => (.error a.error, { asked with now := max w.now a.time })

@[simp] theorem run_get (server : Server σ) (url : Url) (w : World σ) :
    Session.run (server.transport.get url) w = .ok (server.fetch url w) := by
  show Session.run (Session.send server (getRequest url) >>= fun answer : Answer =>
    Session.pass answer.latency >>= fun _ => Session.ofExcept answer.outcome) w = _
  rw [Session.run_bind_ok (rfl : Session.run (Session.send server (getRequest url)) w =
    .ok (.ok (server w.peer (getRequest url)).1, { w with
      sent := w.sent ++ [(w.now, getRequest url)], peer := (server w.peer (getRequest url)).2 }))]
  rw [Session.run_bind, Session.run_pass]
  simp only [fetch]
  cases Alarm.first? w.alarms (w.now + (server w.peer (getRequest url)).1.latency) <;> rfl

/-- A GET is recorded, whatever it comes to. -/
theorem fetch_sent (server : Server σ) (url : Url) (w : World σ) :
    (server.fetch url w).2.sent = w.sent ++ [(w.now, getRequest url)] := by
  simp only [fetch]
  split <;> rfl

theorem fetch_peer (server : Server σ) (url : Url) (w : World σ) :
    (server.fetch url w).2.peer = (server w.peer (getRequest url)).2 := by
  simp only [fetch]
  split <;> rfl

theorem fetch_alarms (server : Server σ) (url : Url) (w : World σ) :
    (server.fetch url w).2.alarms = w.alarms := by
  simp only [fetch]
  split <;> rfl

theorem le_fetch_now (server : Server σ) (url : Url) (w : World σ) :
    w.now ≤ (server.fetch url w).2.now := by
  simp only [fetch]
  split
  · exact Nat.le_add_right _ _
  · exact Nat.le_max_left _ _

/-- No alarm that is still to come is passed by. -/
theorem fetch_now_le (server : Server σ) (url : Url) (w : World σ) {a : Alarm}
    (ha : a ∈ w.alarms) (hnow : w.now ≤ a.time) : (server.fetch url w).2.now ≤ a.time := by
  simp only [fetch]
  rcases Alarm.first?_cases w.alarms (w.now + (server w.peer (getRequest url)).1.latency) with
    ⟨hnone, hlate⟩ | ⟨first, -, hsome, -, hleast⟩
  · rw [hnone]
    exact hlate a ha
  · rw [hsome]
    exact Nat.max_le.mpr ⟨hnow, hleast a ha⟩

/-- What was fetched is what the server answered. -/
theorem fetch_eq_ok {server : Server σ} {url : Url} {w : World σ} {body : Json}
    (h : (server.fetch url w).1 = .ok body) :
    (server w.peer (getRequest url)).1.outcome = .ok body := by
  simp only [fetch] at h
  split at h
  · exact h
  · cases h

/-- Without alarms the answer of the server is the outcome. -/
theorem fetch_of_no_alarm (server : Server σ) (url : Url) (w : World σ) (h : w.alarms = []) :
    (server.fetch url w).1 = (server w.peer (getRequest url)).1.outcome := by
  simp only [fetch, h]
  rfl

end Server

/-- A URL of a service, for the cases the theorems are tried on. -/
def serviceUrl (segments : List String) : Url :=
  ⟨"https".toList, some ⟨[], [], .name "api.example.com".toList, none⟩,
    .segments (segments.map String.toList), none, none⟩

end CloudApi
