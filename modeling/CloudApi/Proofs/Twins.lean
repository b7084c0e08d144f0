import CloudApi.Pager
import CloudApi.Proofs.Session
import CloudApi.Task.Waiter
import Mathlib.Data.List.Forall2

/-! Sessions that go the same way in two worlds.

Some requests and some peers are taken for the same (`View`). Two sessions are twins if, in worlds
that are the same to the view, they come to the same values and errors at the same times and have
sent the same requests. Whatever is built of twins by the ways to build a session is twins again, so
that pages, waits and tasks over two transports go the same way if each request does
(`Transports.eachPage`, `Transports.waitForTask`, `Transports.settle`). -/
namespace CloudApi

/-- What is taken for the same: peers, and the requests that they are sent. -/
structure View (σ : Type) where
  peers : σ → σ → Prop
  requests : Request → Request → Prop

namespace View
variable {σ α β : Type} (v : View σ)

/-- Worlds at the same time under the same alarms, with the same peer and the same requests sent, as
far as the view tells. -/
inductive Worlds : World σ → World σ → Prop where
  | same {now : Nat} {alarms : List Alarm} {sent sent' : List (Nat × Request)} {peer peer' : σ}
    (requests : List.Forall₂ (fun s s' => s.1 = s'.1 ∧ v.requests s.2 s'.2) sent sent')
    (peers : v.peers peer peer') : Worlds ⟨now, alarms, sent, peer⟩ ⟨now, alarms, sent', peer'⟩

theorem Worlds.withAlarms {v : View σ} {w w' : World σ} (h : v.Worlds w w') (alarms : List Alarm) :
    v.Worlds { w with alarms } { w' with alarms } := by
  obtain ⟨hrequests, hpeers⟩ := h
  exact .same hrequests hpeers

/-- Ends without an outcome for the same reason, or with the same outcome in the same world. -/
inductive Ends : Except Halt (Except Error α × World σ) → Except Halt (Except Error α × World σ) →
    Prop where
  | halted (why : Halt) : Ends (.error why) (.error why)
  | ended {outcome : Except Error α} {after after' : World σ} (worlds : v.Worlds after after') :
    Ends (.ok (outcome, after)) (.ok (outcome, after'))

/-- Sessions that go the same way in worlds that are the same. -/
def Twins (part part' : Session σ α) : Prop :=
  ∀ w w', v.Worlds w w' → v.Ends (Session.run part w) (Session.run part' w')

namespace Twins
variable {v} {part part' : Session σ α}

theorem pure (a : α) : v.Twins (pure a) (pure a) :=
  fun _ _ h => .ended h

theorem throw (e : Error) : v.Twins (throw e : Session σ α) (throw e) :=
  fun _ _ h => .ended h

theorem halt (why : Halt) : v.Twins (Session.halt why : Session σ α) (Session.halt why) :=
  fun _ _ _ => .halted why

theorem ofExcept (outcome : Except Error α) :
    v.Twins (Session.ofExcept outcome) (Session.ofExcept outcome) :=
  fun _ _ h => .ended h

theorem now : v.Twins Session.now Session.now := by
  rintro _ _ ⟨hrequests, hpeers⟩
  exact .ended (.same hrequests hpeers)

theorem later (moment span : Nat) :
    v.Twins (Session.later moment span) (Session.later moment span) := by
  intro w w' h
  rw [Session.run_later, Session.run_later]
  split
  · exact .ended h
  · exact .halted _

theorem pass (span : Nat) : v.Twins (Session.pass span) (Session.pass span) := by
  rintro _ _ ⟨hrequests, hpeers⟩
  rw [Session.run_pass, Session.run_pass]
  dsimp only
  split
  · exact .ended (.same hrequests hpeers)
  · exact .ended (.same hrequests hpeers)

theorem bind {rest rest' : α → Session σ β} (h : v.Twins part part')
    (hrest : ∀ a, v.Twins (rest a) (rest' a)) : v.Twins (part >>= rest) (part' >>= rest') := by
  intro w w' hworlds
  have hends := h w w' hworlds
  rw [Session.run_bind, Session.run_bind]
  generalize Session.run part w = ended at hends
  generalize Session.run part' w' = ended' at hends
  cases hends with
  | halted why => exact .halted why
  | @ended outcome _ _ hafter =>
    cases outcome with
    | error e => exact .ended hafter
    | ok a => exact hrest a _ _ hafter

theorem ite {p : Prop} [Decidable p] {no no' : Session σ α} (h : v.Twins part part')
    (hno : v.Twins no no') : v.Twins (if p then part else no) (if p then part' else no') := by
  split
  · exact h
  · exact hno

theorem within (alarms : List Alarm) (h : v.Twins part part') :
    v.Twins (Session.within alarms part) (Session.within alarms part') := by
  intro w w' hworlds
  have hends := h _ _ (hworlds.withAlarms alarms)
  have halarms : w.alarms = w'.alarms := by
    obtain ⟨-, -⟩ := hworlds
    rfl
  rw [Session.run_within, Session.run_within, halarms]
  generalize Session.run part { w with alarms } = ended at hends
  generalize Session.run part' { w' with alarms } = ended' at hends
  cases hends with
  | halted why => exact .halted why
  | ended hafter => exact .ended (hafter.withAlarms w'.alarms)

theorem attempt (h : v.Twins part part') :
    v.Twins (Session.attempt part) (Session.attempt part') := by
  intro w w' hworlds
  have hends := h w w' hworlds
  rw [Session.run_attempt, Session.run_attempt]
  generalize Session.run part w = ended at hends
  generalize Session.run part' w' = ended' at hends
  cases hends with
  | halted why => exact .halted why
  | ended hafter => exact .ended hafter

end Twins

/-! ### Pages -/

/-- Transports over which each request goes the same way. -/
def Transports (t t' : Transport σ) : Prop :=
  ∀ method url body, v.Twins (t.send method url body) (t'.send method url body)

namespace Transports
variable {v} {t t' : Transport σ} (h : v.Transports t t')

include h

theorem get (url : Url) : v.Twins (t.get url) (t'.get url) :=
  h .get url none

theorem nextPage (pager : Pager) : v.Twins (pager.nextPage t) (pager.nextPage t') := by
  unfold Pager.nextPage
  refine .ite (.pure _) ?_
  split
  · exact .pure _
  · next url _ =>
    refine .bind (.attempt (h.get url)) fun body => ?_
    dsimp only
    split <;> exact .pure _

theorem eachPage {τ : Type} (visit : τ → Page → Except Error Bool × τ) (rounds : Nat) (seen : τ)
    (pager : Pager) :
    v.Twins (pager.eachPage t visit rounds seen) (pager.eachPage t' visit rounds seen) := by
  induction rounds generalizing seen pager with
  | zero => exact .halt _
  | succ rounds ih =>
    unfold Pager.eachPage
    refine .bind (h.nextPage pager) fun ⟨result, pager⟩ => ?_
    split
    · exact .pure _
    · exact .pure _
    · split
      · exact .pure _
      · exact .pure _
      · exact ih _ _

theorem allPages (rounds : Nat) (pager : Pager) :
    v.Twins (pager.allPages t rounds) (pager.allPages t' rounds) :=
  .bind (h.eachPage _ rounds [] pager) fun _ => .ofExcept _

theorem allItems {α : Type} (decode : Json.Decoder α) (rounds : Nat) (pager : Pager) :
    v.Twins (pager.allItems t decode rounds) (pager.allItems t' decode rounds) :=
  .bind (h.eachPage _ rounds [] pager) fun _ => .ofExcept _

theorem nextOfStream (pager : Pager) :
    v.Twins (pager.nextOfStream t) (pager.nextOfStream t') := by
  refine .bind (h.nextPage pager) fun ⟨result, pager⟩ => ?_
  split <;> exact .pure _

theorem streamed (limit : Nat) (pager : Pager) :
    v.Twins (pager.streamed t limit) (pager.streamed t' limit) := by
  induction limit generalizing pager with
  | zero => exact .pure _
  | succ limit ih =>
    refine .bind (h.nextOfStream pager) fun ⟨result, pager⟩ => ?_
    split
    · exact .pure _
    · exact .bind (ih _) fun _ => .pure _

end Transports

/-! ### Waits -/

theorem Twins.bounded {v : View σ} {part part' : Session σ α} (id : String) (limit : Nat)
    (options : WaitOptions) (last : Option TaskState) (h : v.Twins part part') :
    v.Twins (Waiter.bounded id limit options last part)
      (Waiter.bounded id limit options last part') :=
  .bind .now fun _ => .ite (.throw _) (.within _ h)

namespace Transports
variable {v} {t t' : Transport σ} (h : v.Transports t t') (base : Url) (version : String)

include h

theorem getTask (id : String) :
    v.Twins (Waiter.getTask ⟨t, base, version⟩ id) (Waiter.getTask ⟨t', base, version⟩ id) :=
  .bind (.ofExcept _) fun url => .bind (h.get url) fun _ => .ofExcept _

theorem poll (id : String) (options : WaitOptions) (limit rounds : Nat) (last : Option TaskState) :
    v.Twins (Waiter.poll ⟨t, base, version⟩ id options limit rounds last)
      (Waiter.poll ⟨t', base, version⟩ id options limit rounds last) := by
  induction rounds generalizing last with
  | zero => exact .halt _
  | succ rounds ih =>
    refine .bind (.bounded id limit options last (h.getTask base version id)) fun task => ?_
    split
    · exact .ofExcept _
    · refine .bind .now fun now => .ite (.throw _) ?_
      exact .bind (.later _ _) fun bound =>
        .bind (.bounded id bound options _ (.pass _)) fun _ => ih _

theorem waitForTask (rounds : Nat) (id : String) (options : WaitOptions) :
    v.Twins (Waiter.waitForTask ⟨t, base, version⟩ rounds id options)
      (Waiter.waitForTask ⟨t', base, version⟩ rounds id options) :=
  .bind .now fun _ => .bind (.bind (.later _ _) fun _ => .pure _) fun limit =>
    h.poll base version id options limit rounds none

theorem waitForTasks (rounds : Nat) (options : WaitOptions) (ids : List String) :
    v.Twins (Waiter.waitForTasks ⟨t, base, version⟩ rounds options ids)
      (Waiter.waitForTasks ⟨t', base, version⟩ rounds options ids) := by
  induction ids with
  | nil => exact .pure _
  | cons id ids ih =>
    exact .bind (h.waitForTask base version rounds id options) fun _ => .bind ih fun _ => .pure _

theorem settleList (rounds : Nat) (options : WaitOptions) {extract extract' : String → Session σ α}
    (hextract : ∀ task, v.Twins (extract task) (extract' task)) (ids : List String) :
    v.Twins (Waiter.settleList ⟨t, base, version⟩ rounds options extract ids)
      (Waiter.settleList ⟨t', base, version⟩ rounds options extract' ids) := by
  induction ids with
  | nil => exact .throw _
  | cons id ids ih =>
    have hwait := h.waitForTask base version rounds id options
    cases ids with
    | nil => exact .bind hwait fun _ => hextract id
    | cons next ids =>
      refine .bind (.bind hwait fun task => ?_) fun _ => ih
      exact .ite (.throw _) (.pure _)

theorem settle (rounds : Nat) (tasks : TaskList) (wait : Option WaitOptions)
    {extract extract' : String → Session σ α}
    (hextract : ∀ task, v.Twins (extract task) (extract' task)) :
    v.Twins (Waiter.settle ⟨t, base, version⟩ rounds tasks wait extract)
      (Waiter.settle ⟨t', base, version⟩ rounds tasks wait extract') := by
  cases wait with
  | none => exact .pure _
  | some options =>
    exact .bind (h.settleList base version rounds options hextract tasks.tasks) fun _ => .pure _

end Transports

end View

end CloudApi
