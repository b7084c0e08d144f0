import CloudApi.Envelope
import CloudApi.Proofs.Session

/-! The steps of a session.

A part of a session is told by the steps it takes: requests that a transport was given, each with
what came of it, and pauses between them (`Steps`). The simplest part is a GET whose body is read
(`Fetch`); over a transport that comes back from every GET (`Timely`) there is always one. -/
namespace CloudApi

/-- A request that a transport was given, and what came of it. -/
structure Step where
  method : Method
  url : Url
  body : Option Json
  result : Except Error Json

/-- A GET with what came of it. -/
def Step.get (url : Url) (result : Except Error Json) : Step :=
  ⟨.get, url, none, result⟩

section Steps
variable {σ : Type} (t : Transport σ)

/-- A step between two worlds; the part of the session it belongs to may have alarms of its own. -/
def Step.Taken (step : Step) (w after : World σ) : Prop :=
  ∃ alarms last, Session.run (t.send step.method step.url step.body) { w with alarms } =
    .ok (step.result, last) ∧ after = { last with alarms := w.alarms }

/-- The steps between two worlds. Between them time passes and nothing else happens. -/
inductive Steps : List Step → World σ → World σ → Prop where
  | done (w : World σ) : Steps [] w w
  | paused {steps : List Step} {w after : World σ} {now : Nat} (le : w.now ≤ now) :
    Steps steps { w with now } after → Steps steps w after
  | next {step : Step} {steps : List Step} {w mid after : World σ} :
    step.Taken t w mid → Steps steps mid after → Steps (step :: steps) w after

variable {t}

theorem Step.Taken.of_run {step : Step} {w after : World σ}
    (h : Session.run (t.send step.method step.url step.body) w = .ok (step.result, after))
    (halarms : after.alarms = w.alarms) : step.Taken t w after :=
  ⟨w.alarms, after, h, by rw [← halarms]⟩

theorem Steps.single {step : Step} {w after : World σ} (h : step.Taken t w after) :
    Steps t [step] w after :=
  .next h (.done after)

theorem Steps.append {first more : List Step} {w mid after : World σ} (h : Steps t first w mid)
    (h' : Steps t more mid after) : Steps t (first ++ more) w after := by
  induction h with
  | done w => exact h'
  | paused le _ ih => exact .paused le (ih h')
  | next htaken _ ih => exact .next htaken (ih h')

theorem Steps.alarms_eq {steps : List Step} {w after : World σ} (h : Steps t steps w after) :
    after.alarms = w.alarms := by
  induction h with
  | done => rfl
  | paused _ _ ih => exact ih
  | next htaken _ ih =>
    obtain ⟨_, _, -, rfl⟩ := htaken
    exact ih

/-- Without steps only time passes. -/
theorem Steps.of_nil {w after : World σ} (h : Steps t [] w after) :
    ∃ now, after = { w with now } := by
  generalize hnil : ([] : List Step) = steps at h
  induction h with
  | done w => exact ⟨w.now, rfl⟩
  | paused _ _ ih => exact ih hnil
  | next => cases hnil

theorem Steps.of_cons {step : Step} {steps : List Step} {w after : World σ}
    (h : Steps t (step :: steps) w after) :
    ∃ now mid, step.Taken t { w with now } mid ∧ Steps t steps mid after := by
  generalize hcons : step :: steps = all at h
  induction h with
  | done => cases hcons
  | paused _ _ ih => exact ih hcons
  | @next _ _ w mid _ htaken hrest =>
    obtain ⟨rfl, rfl⟩ := List.cons.inj hcons
    exact ⟨w.now, mid, htaken, hrest⟩

/-- A transport comes back from every GET, and time goes on until then. -/
def Timely (t : Transport σ) : Prop :=
  ∀ url w, ∃ fetched after, Session.run (t.get url) w = .ok (fetched, after) ∧ Elapsed w after

/-! ### A GET that is read -/

variable (t) in
/-- How the answer to a GET is read from one world to another: there is no URL, or the GET comes to
something. -/
inductive Fetch {γ : Type} (url : Except Error Url) (decode : Json.Decoder γ) (w : World σ) :
    List Step → Except Error γ → World σ → Prop where
  | nowhere {e : Error} (noUrl : url = .error e) : Fetch url decode w [] (.error e) w
  | answered {u : Url} {result : Except Error Json} {after : World σ} (here : url = .ok u)
    (got : Session.run (t.get u) w = .ok (result, after)) :
    Fetch url decode w [.get u result] (result.bind (Envelope.whole decode)) after

section Fetch
variable {γ : Type} {url : Except Error Url} {decode : Json.Decoder γ} {w after : World σ}
  {taken : List Step} {outcome : Except Error γ}

theorem Fetch.run (h : Fetch t url decode w taken outcome after) :
    Session.run (do
      let u ← Session.ofExcept url
      let body ← t.get u
      Session.ofExcept (Envelope.whole decode body)) w = .ok (outcome, after) := by
  cases h with
  | nowhere noUrl =>
    subst noUrl
    exact Session.run_bind_error (Session.run_ofExcept _ w)
  | @answered u result _ here got =>
    subst here
    rw [Session.run_bind_ok (Session.run_ofExcept (.ok u) w)]
    cases result with
    | error e => exact Session.run_bind_error got
    | ok body => exact Session.run_bind_ok got

/-- A GET is read well if its body is. -/
theorem fetch_ok_iff {a : γ} :
    Fetch t url decode w taken (.ok a) after ↔
      ∃ u body, url = .ok u ∧ taken = [.get u (.ok body)] ∧
        Session.run (t.get u) w = .ok (.ok body, after) ∧ Envelope.whole decode body = .ok a := by
  constructor
  · intro h
    generalize houtcome : (Except.ok a : Except Error γ) = outcome at h
    cases h with
    | nowhere => cases houtcome
    | @answered u result _ here got =>
      cases result with
      | error e => cases houtcome
      | ok body => exact ⟨u, body, here, rfl, got, rfl⟩
  · rintro ⟨u, body, here, rfl, got, hread⟩
    rw [← hread]
    exact .answered here got

variable (url decode w) in
theorem exists_fetch (ht : Timely t) : ∃ taken outcome after,
    Fetch t url decode w taken outcome after := by
  cases hurl : url with
  | error e => exact ⟨_, _, _, .nowhere rfl⟩
  | ok u =>
    obtain ⟨fetched, after, hget, -⟩ := ht u w
    exact ⟨_, _, _, .answered rfl hget⟩

theorem Fetch.steps (ht : Timely t) (h : Fetch t url decode w taken outcome after) :
    Steps t taken w after := by
  cases h with
  | nowhere => exact .done w
  | @answered u result _ here got =>
    refine .single (.of_run got ?_)
    obtain ⟨_, _, hget, helapsed⟩ := ht u w
    obtain ⟨-, rfl⟩ := Prod.mk.inj (Except.ok.inj (got.symm.trans hget))
    exact helapsed.alarms_eq

theorem Fetch.gets (h : Fetch t url decode w taken outcome after) :
    ∀ step ∈ taken, step.method = .get := by
  cases h with
  | nowhere => exact fun _ h => absurd h List.not_mem_nil
  | answered => exact List.forall_mem_singleton.mpr rfl

end Fetch

end Steps

end CloudApi
