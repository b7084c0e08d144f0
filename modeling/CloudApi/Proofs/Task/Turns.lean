import CloudApi.Proofs.Task.Repeat

/-! Tasks one after the other.

Waiting for several tasks takes turns: a task is awaited up to its end, something is taken from it,
and only then the next one is looked at (`Turns`). This goes on through all tasks, or stops at the
first wait or at the first taking that fails (`Series`). An extractor that never fails and leaves
the answers about the tasks alone changes nothing about the turns, except that a wait after it
begins later and may be called off on that account (`Turns.again`). -/
namespace CloudApi.Waiter
variable {σ α β : Type}

section Each
variable (waiter : Waiter σ) (rounds : Nat) (options : WaitOptions)

/-- Waits for tasks one after the other and takes something from each before the next. -/
def waitEach (take : String → Task → Session σ α) : List String → Session σ (List α)
  | [] => return []
  | id :: ids => do
    let task ← waiter.waitForTask rounds id options
    let a ← take id task
    return a :: (← waitEach take ids)

theorem waitForTasks_eq (ids : List String) :
    waiter.waitForTasks rounds options ids =
      waiter.waitEach rounds options (fun _ task => pure task) ids := by
  induction ids with
  | nil => rfl
  | cons id ids ih =>
    rw [waitForTasks, waitEach, ih]
    simp only [pure_bind]

theorem waitAllAndExtract_eq (extract : String → Session σ α) (ids : List String) :
    waiter.waitAllAndExtract rounds options extract ids =
      waiter.waitEach rounds options (fun id _ => extract id) ids := by
  induction ids with
  | nil => rfl
  | cons id ids ih =>
    rw [waitAllAndExtract, waitEach, waitAndExtract, ih]
    simp only [bind_assoc]

/-- Waiting for one task and taking a result from it is the case of one task. -/
theorem run_waitAllAndExtract_singleton (id : String) (extract : String → Session σ α)
    (w : World σ) :
    Session.run (waiter.waitAllAndExtract rounds options extract [id]) w =
      (Session.run (waiter.waitAndExtract rounds id options extract) w).map
        fun (outcome, after) => (outcome.map ([·]), after) := by
  have hsingle : waiter.waitAllAndExtract rounds options extract [id] =
      waiter.waitAndExtract rounds id options extract >>= fun a => pure [a] := by
    simp only [waitAllAndExtract, pure_bind]
  rw [hsingle, Session.run_bind_pure]

end Each

section Turns
variable (server : Server σ) (base : Url) (version : String) (options : WaitOptions)
  (rounds : Nat) (take : String → Task → Session σ α)

/-- Turns that went well, with what was taken in each. -/
inductive Turns : List Turn → World σ → List α → World σ → Prop where
  | nil (w : World σ) : Turns [] w [] w
  | cons {turn : Turn} {turns : List Turn} {w mid next after : World σ} {a : α} {values : List α}
    (polled : Polled server base version options rounds turn w mid)
    (taken : Session.run (take turn.id turn.task) mid = .ok (.ok a, next))
    (rest : Turns turns next values after) : Turns (turn :: turns) w (a :: values) after

/-- How waiting for tasks one after the other ends. -/
inductive Series (ids : List String) (w : World σ) :
    Except Halt (Except Error (List α) × World σ) → Prop where
  /-- All turns go well, and each gives its value. -/
  | done {turns : List Turn} {values : List α} {after : World σ}
    (passed : Turns server base version options rounds take turns w values after)
    (split : ids = turns.map Turn.id) : Series ids w (.ok (.ok values, after))
  /-- A wait fails; its error is the outcome, and nothing is asked after it. -/
  | waitFails {first : List Turn} {id : String} {later : List String} {values : List α}
    {before after : World σ} {e : Error}
    (passed : Turns server base version options rounds take first w values before)
    (split : ids = first.map Turn.id ++ id :: later)
    (fails : Session.run (waitForTask ⟨server.transport, base, version⟩ rounds id options) before =
      .ok (.error e, after))
    (stretch : Stretch base version id (before.now + options.timeout.toNanos) before after) :
    Series ids w (.ok (.error e, after))
  /-- A task is seen ended, but taking the value from it fails. -/
  | takeFails {first : List Turn} {turn : Turn} {later : List String} {values : List α}
    {before mid after : World σ} {e : Error}
    (passed : Turns server base version options rounds take first w values before)
    (split : ids = first.map Turn.id ++ turn.id :: later)
    (polled : Polled server base version options rounds turn before mid)
    (fails : Session.run (take turn.id turn.task) mid = .ok (.error e, after)) :
    Series ids w (.ok (.error e, after))
  /-- A wait runs out of rounds or leaves the clock. -/
  | waitHalts {first : List Turn} {id : String} {later : List String} {values : List α}
    {before : World σ} {why : Halt}
    (passed : Turns server base version options rounds take first w values before)
    (split : ids = first.map Turn.id ++ id :: later)
    (halts : Session.run (waitForTask ⟨server.transport, base, version⟩ rounds id options) before =
      .error why)
    (short : ¬ Ample options rounds before.now) : Series ids w (.error why)
  | takeHalts {first : List Turn} {turn : Turn} {later : List String} {values : List α}
    {before mid : World σ} {why : Halt}
    (passed : Turns server base version options rounds take first w values before)
    (split : ids = first.map Turn.id ++ turn.id :: later)
    (polled : Polled server base version options rounds turn before mid)
    (halts : Session.run (take turn.id turn.task) mid = .error why) : Series ids w (.error why)

variable {server base version options rounds take}

/-- A turn that went well leaves the end to the turns that follow. -/
theorem Series.cons {turn : Turn} {ids : List String} {w mid next : World σ} {a : α}
    {run : Except Halt (Except Error (List α) × World σ)}
    (polled : Polled server base version options rounds turn w mid)
    (taken : Session.run (take turn.id turn.task) mid = .ok (.ok a, next))
    (h : Series server base version options rounds take ids next run) :
    Series server base version options rounds take (turn.id :: ids) w
      (run.map fun (outcome, after) => (outcome.map (a :: ·), after)) := by
  cases h with
  | done passed split => exact .done (.cons polled taken passed) (congrArg (turn.id :: ·) split)
  | waitFails passed split fails stretch =>
    exact .waitFails (.cons polled taken passed) (congrArg (turn.id :: ·) split) fails stretch
  | takeFails passed split polled' fails =>
    exact .takeFails (.cons polled taken passed) (congrArg (turn.id :: ·) split) polled' fails
  | waitHalts passed split halts short =>
    exact .waitHalts (.cons polled taken passed) (congrArg (turn.id :: ·) split) halts short
  | takeHalts passed split polled' halts =>
    exact .takeHalts (.cons polled taken passed) (congrArg (turn.id :: ·) split) polled' halts

/-- Behind a task that was seen and a value taken from it the run is that of the other tasks. -/
theorem run_waitEach_cons {turn : Turn} {w mid next : World σ} {a : α}
    (polled : Polled server base version options rounds turn w mid)
    (taken : Session.run (take turn.id turn.task) mid = .ok (.ok a, next)) (ids : List String) :
    Session.run
        (waitEach ⟨server.transport, base, version⟩ rounds options take (turn.id :: ids)) w =
      (Session.run (waitEach ⟨server.transport, base, version⟩ rounds options take ids) next).map
        fun (outcome, after) => (outcome.map (a :: ·), after) := by
  rw [waitEach, Session.run_bind_ok polled.run, Session.run_bind_ok taken, Session.run_bind_pure]

theorem Series.of_ok {ids : List String} {w after : World σ} {values : List α}
    (h : Series server base version options rounds take ids w (.ok (.ok values, after))) :
    ∃ turns, turns.map Turn.id = ids ∧
      Turns server base version options rounds take turns w values after := by
  cases h with
  | done passed split => exact ⟨_, split.symm, passed⟩

/-- A wait sees its task, fails, or runs out of rounds or clock. -/
theorem wait_cases (server : Server σ) (base : Url) (version : String) (options : WaitOptions)
    (rounds : Nat) (id : String) (w : World σ) :
    let run := Session.run (waitForTask ⟨server.transport, base, version⟩ rounds id options) w
    (∃ turn after, turn.id = id ∧ Polled server base version options rounds turn w after) ∨
    (∃ e after, run = .ok (.error e, after) ∧
      Stretch base version id (w.now + options.timeout.toNanos) w after) ∨
    ∃ why, run = .error why ∧ ¬ Ample options rounds w.now := by
  intro run
  rcases watched_or_halted server base version options rounds id (le_refl w.now) with
    ⟨seen, after, hwatched⟩ | ⟨hshort, why, hhalts⟩
  · have hrun : run = _ := hwatched.run options.throwOnFailure
    cases hjudged : judged id options.throwOnFailure seen with
    | error e => exact .inr (.inl ⟨e, after, hrun.trans (by rw [hjudged]), hwatched.stretch⟩)
    | ok task =>
      rw [hjudged] at hrun
      obtain ⟨turn, hid, -, hpolled⟩ := exists_polled hrun
      exact .inl ⟨turn, after, hid, hpolled⟩
  · exact .inr (.inr ⟨why, hhalts options.throwOnFailure, hshort⟩)

/-- **Waiting for tasks one after the other is a series of turns.** -/
theorem series (ids : List String) (w : World σ) :
    Series server base version options rounds take ids w
      (Session.run (waitEach ⟨server.transport, base, version⟩ rounds options take ids) w) := by
  induction ids generalizing w with
  | nil => exact .done (.nil w) rfl
  | cons id ids ih =>
    rcases wait_cases server base version options rounds id w with
      ⟨turn, mid, rfl, hpolled⟩ | ⟨e, after, hfails, hstretch⟩ | ⟨why, hhalts, hshort⟩
    · cases htaken : Session.run (take turn.id turn.task) mid with
      | error why =>
        rw [waitEach, Session.run_bind_ok hpolled.run, Session.run_bind_halt htaken]
        exact .takeHalts (.nil w) (List.nil_append _).symm hpolled htaken
      | ok ended =>
        obtain ⟨outcome, next⟩ := ended
        cases outcome with
        | error e =>
          rw [waitEach, Session.run_bind_ok hpolled.run, Session.run_bind_error htaken]
          exact .takeFails (.nil w) (List.nil_append _).symm hpolled htaken
        | ok a =>
          rw [run_waitEach_cons hpolled htaken]
          exact (ih next).cons hpolled htaken
    · rw [waitEach, Session.run_bind_error hfails]
      exact .waitFails (.nil w) (List.nil_append _).symm hfails hstretch
    · rw [waitEach, Session.run_bind_halt hhalts]
      exact .waitHalts (.nil w) (List.nil_append _).symm hhalts hshort

/-- After turns that went well the driver goes on with the other tasks. -/
theorem Turns.run_waitEach {turns : List Turn} {w after : World σ} {values : List α}
    (h : Turns server base version options rounds take turns w values after) (ids : List String) :
    Session.run (waitEach ⟨server.transport, base, version⟩ rounds options take
        (turns.map Turn.id ++ ids)) w =
      (Session.run (waitEach ⟨server.transport, base, version⟩ rounds options take ids) after).map
        fun (outcome, last) => (outcome.map (values ++ ·), last) := by
  induction h with
  | nil w =>
    rw [List.map_nil, List.nil_append]
    rcases Session.run (waitEach ⟨server.transport, base, version⟩ rounds options take ids) w with
      why | ⟨e | values, last⟩ <;> rfl
  | @cons turn turns _ _ _ after _ values polled taken _ ih =>
    rw [List.map_cons, List.cons_append, run_waitEach_cons polled taken, ih]
    rcases Session.run (waitEach ⟨server.transport, base, version⟩ rounds options take ids) after
      with why | ⟨e | values, last⟩ <;> rfl

end Turns

/-! ### The same turns with an extractor -/

section Again
variable (server : Server σ) (base : Url) (version : String)

/-- An extractor that never fails, and that has no hand in what is answered about the tasks that
follow. -/
def Harmless (extract : String → Session σ α) (ids : List String) : Prop :=
  ∀ passed id later, ids = passed ++ id :: later → ∀ w : World σ, w.alarms = [] → ∃ a after,
    Session.run (extract id) w = .ok (.ok a, after) ∧ Elapsed w after ∧
      server.Alike (AsksFor base version later) w.peer after.peer

variable {server base version} {options : WaitOptions} {rounds : Nat}
  {extract : String → Session σ α}

/-- The turns of waits between which nothing happens. -/
abbrev Waits (server : Server σ) (base : Url) (version : String) (options : WaitOptions)
    (rounds : Nat) : List Turn → World σ → List Task → World σ → Prop :=
  Turns server base version options rounds fun _ task => pure task

/-- The turns of waits with an extractor after each. -/
abbrev Extracts (server : Server σ) (base : Url) (version : String) (options : WaitOptions)
    (rounds : Nat) (extract : String → Session σ α) :
    List Turn → World σ → List α → World σ → Prop :=
  Turns server base version options rounds fun id _ => extract id

/-- **A harmless extractor after each wait leaves the turns as they are**, up to a wait that is
called off or has no clock left when it begins. -/
theorem Turns.again {turns : List Turn} {w w' after : World σ} {tasks : List Task}
    (h : Waits server base version options rounds turns w tasks after)
    (hharmless : Harmless server base version extract (turns.map Turn.id))
    (halike : server.Alike (AsksFor base version (turns.map Turn.id)) w.peer w'.peer)
    (hle : w.now ≤ w'.now) (hquiet : w'.alarms = []) :
    (∃ values last, Extracts server base version options rounds extract turns w' values last) ∨
    ∃ first turn later values before, turns = first ++ turn :: later ∧
      Extracts server base version options rounds extract first w' values before ∧
      (¬ OnClock options before.now ∨ Fired options.cancel (before.now + turn.span) ∧ ∃ last,
        Session.run (waitForTask ⟨server.transport, base, version⟩ rounds turn.id options) before =
          .ok (.error (.cancelled turn.id), last)) := by
  induction h generalizing w' with
  | nil => exact .inl ⟨[], w', .nil w'⟩
  | @cons turn turns w mid next _ _ _ polled taken _ ih =>
    obtain ⟨-, rfl⟩ := Prod.mk.inj (Except.ok.inj taken)
    by_cases hclock : OnClock options w'.now
    · rcases polled.again List.mem_cons_self halike hle hclock with
        ⟨mid', hpolled, hmid⟩ | hcalled
      · have hmid' := hpolled.alarms_eq.trans hquiet
        obtain ⟨a, next', hextracts, helapsed, hanswers⟩ := hharmless [] turn.id _ rfl mid' hmid'
        have hnow : mid.now ≤ mid'.now := by
          rw [polled.now_eq, hpolled.now_eq]
          omega
        have hsub (r : Request) (hr : AsksFor base version (turns.map Turn.id) r) :
            AsksFor base version ((turn :: turns).map Turn.id) r := by
          obtain ⟨id, hmem, hasks⟩ := hr
          exact ⟨id, List.mem_cons_of_mem _ hmem, hasks⟩
        have htail : Harmless server base version extract (turns.map Turn.id) :=
          fun passed id later hsplit =>
            hharmless (turn.id :: passed) id later (congrArg (turn.id :: ·) hsplit)
        rcases ih htail ((hmid.mono hsub).trans hanswers) (hnow.trans helapsed.le)
          (helapsed.alarms_eq.trans hmid') with
          ⟨values, last, hturns⟩ | ⟨first, stop, later, values, before, hsplit, hturns, hstops⟩
        · exact .inl ⟨_, last, .cons hpolled hextracts hturns⟩
        · exact .inr ⟨turn :: first, stop, later, _, before, congrArg (turn :: ·) hsplit,
            .cons hpolled hextracts hturns, hstops⟩
      · exact .inr ⟨[], turn, turns, [], w', rfl, .nil w', .inr hcalled⟩
    · exact .inr ⟨[], turn, turns, [], w', rfl, .nil w', .inl hclock⟩

theorem Turns.tasks_eq {turns : List Turn} {w after : World σ} {tasks : List Task}
    (h : Waits server base version options rounds turns w tasks after) :
    tasks = turns.map Turn.task := by
  induction h with
  | nil => rfl
  | cons _ taken _ ih =>
    obtain ⟨hsame, -⟩ := Prod.mk.inj (Except.ok.inj taken)
    rw [List.map_cons, ← ih, Except.ok.inj hsame]

end Again

/-- **Tasks in turn.** Waiting for tasks, with an extractor or without, is a series of turns in the
order of the tasks. Where it goes well without one, a harmless extractor finds the same turns: the
same looks at the same tasks, and the extractor is run after each. Since it takes time, a wait may
begin so late, though, that it is called off, or that its clock is too short. -/
theorem tasks_in_turn (server : Server σ) (base : Url) (version : String) (options : WaitOptions)
    (rounds : Nat) (extract : String → Session σ α) (ids : List String) (w : World σ) :
    let waiter : Waiter σ := ⟨server.transport, base, version⟩
    let waits := Session.run (waiter.waitForTasks rounds options ids) w
    let extracts := Session.run (waiter.waitAllAndExtract rounds options extract ids) w
    Series server base version options rounds (fun _ task => pure task) ids w waits ∧
    Series server base version options rounds (fun id _ => extract id) ids w extracts ∧
    (∀ id, Session.run (waiter.waitAllAndExtract rounds options extract [id]) w =
      (Session.run (waiter.waitAndExtract rounds id options extract) w).map
        fun (outcome, after) => (outcome.map ([·]), after)) ∧
    ∀ tasks after, waits = .ok (.ok tasks, after) → w.alarms = [] →
      Harmless server base version extract ids → ∃ turns,
        turns.map Turn.id = ids ∧ turns.map Turn.task = tasks ∧
        Waits server base version options rounds turns w tasks after ∧
        ((∃ values last, extracts = .ok (.ok values, last) ∧
          Extracts server base version options rounds extract turns w values last) ∨
        ∃ first turn later values before, turns = first ++ turn :: later ∧
          Extracts server base version options rounds extract first w values before ∧
          (¬ OnClock options before.now ∨ Fired options.cancel (before.now + turn.span) ∧
            ∃ last, extracts = .ok (.error (.cancelled turn.id), last))) := by
  intro waiter waits extracts
  have hwaits : waits = _ := congrArg (Session.run · w) (waitForTasks_eq waiter rounds options ids)
  have hextracts : extracts = _ :=
    congrArg (Session.run · w) (waitAllAndExtract_eq waiter rounds options extract ids)
  have hseries : Series server base version options rounds (fun _ task => pure task) ids w waits :=
    hwaits ▸ series ids w
  refine ⟨hseries, hextracts ▸ series ids w,
    fun id => run_waitAllAndExtract_singleton waiter rounds options id extract w,
    fun tasks after hok hquiet hharmless => ?_⟩
  rw [hok] at hseries
  obtain ⟨turns, rfl, hturns⟩ := hseries.of_ok
  refine ⟨turns, rfl, hturns.tasks_eq.symm, hturns, ?_⟩
  rcases hturns.again hharmless (.refl _ _) le_rfl hquiet with
    ⟨values, last, hall⟩ |
    ⟨first, turn, later, values, before, rfl, hfirst, hclock | ⟨hfired, hcut⟩⟩
  · have hrun := hall.run_waitEach []
    rw [List.append_nil] at hrun
    refine .inl ⟨values, last, hextracts.trans (hrun.trans ?_), hall⟩
    exact congrArg (fun values => Except.ok (Except.ok values, last)) (List.append_nil values)
  · exact .inr ⟨first, turn, later, values, before, rfl, hfirst, .inl hclock⟩
  · refine .inr ⟨first, turn, later, values, before, rfl, hfirst, .inr ⟨hfired, ?_⟩⟩
    obtain ⟨last, hcut⟩ := hcut
    have hrun := hfirst.run_waitEach ((turn :: later).map Turn.id)
    rw [List.map_cons, waitEach, Session.run_bind_error hcut, ← List.map_cons, ← List.map_append]
      at hrun
    exact ⟨last, hextracts.trans hrun⟩

/-! ### An extractor that takes its time -/

/-- A server on which every task has finished. -/
def finishing : Server Unit := fun _ _ =>
  (⟨0, .ok (.object [("id", .string "t"), ("state", .string "FINISHED")])⟩, ())

/-- Gives the identifier of a task, after a tenth of a second. -/
def slowly (id : String) : Session Unit String := do
  Session.pass 100000000
  return id

theorem harmless_slowly (base : Url) (version : String) (ids : List String) :
    Harmless finishing base version slowly ids := by
  intro _ id later _ w hquiet
  have hpass : Session.run (Session.pass 100000000) w =
      .ok (.ok (), { w with now := w.now + 100000000 }) := by
    rw [Session.run_pass, hquiet]
    rfl
  refine ⟨id, _, Session.run_bind_ok hpass, ⟨Nat.le_add_right _ _, rfl, fun a ha => ?_⟩, .refl _ _⟩
  rw [hquiet] at ha
  exact absurd ha List.not_mem_nil

/-- Where nothing calls the waits off, both tasks are seen in the same turns with the extractor and
without it. -/
theorem tasks_in_turn_of_slowly :
    let waiter : Waiter Unit := ⟨finishing.transport, serviceUrl [""], "v1"⟩
    let w : World Unit := ⟨0, [], [], ()⟩
    ∃ turns tasks after last,
      Session.run (waiter.waitForTasks 1 .standard ["t", "u"]) w = .ok (.ok tasks, after) ∧
      turns.map Turn.id = ["t", "u"] ∧ turns.map Turn.task = tasks ∧
      Waits finishing (serviceUrl [""]) "v1" .standard 1 turns w tasks after ∧
      Session.run (waiter.waitAllAndExtract 1 .standard slowly ["t", "u"]) w =
        .ok (.ok ["t", "u"], last) ∧
      Extracts finishing (serviceUrl [""]) "v1" .standard 1 slowly turns w ["t", "u"] last := by
  intro waiter w
  have hwaits : ((Session.run (waiter.waitForTasks 1 .standard ["t", "u"]) w).map
      fun ended => ended.1.isOk) = .ok true := by
    decide +kernel
  have hextracts : ((Session.run (waiter.waitAllAndExtract 1 .standard slowly ["t", "u"]) w).map
      Prod.fst) = .ok (.ok ["t", "u"]) := by
    decide +kernel
  have hone : ((Session.run (waiter.waitAllAndExtract 1 .standard slowly ["t"]) w).map
      fun ended => ended.2.now) = .ok 100000000 := by
    decide +kernel
  obtain ⟨⟨e | tasks, after⟩, hrun, hok⟩ := exists_of_map_eq_ok hwaits
  · cases hok
  obtain ⟨-, -, -, hturns⟩ := tasks_in_turn finishing (serviceUrl [""]) "v1" .standard 1 slowly
    ["t", "u"] w
  obtain ⟨turns, hids, htasks, hpassed, hends⟩ :=
    hturns tasks after hrun rfl (harmless_slowly _ _ _)
  rcases hends with ⟨values, last, hdone, hall⟩ |
    ⟨first, turn, later, values, before, rfl, hfirst, hclock | ⟨-, last, hcut⟩⟩
  · rw [hdone] at hextracts
    obtain rfl := Except.ok.inj (Except.ok.inj hextracts)
    exact ⟨turns, tasks, after, last, hrun, hids, htasks, hpassed, hdone, hall⟩
  · -- the wait at which the clock would be too short begins at once, or after one extraction
    have hbefore := hfirst.run_waitEach []
    rw [List.append_nil, ← waitAllAndExtract_eq] at hbefore
    have hnow : before.now = 0 ∨ before.now = 100000000 := by
      rw [List.map_append, List.map_cons] at hids
      cases first with
      | nil =>
        cases hfirst
        exact .inl rfl
      | cons a first =>
        rw [List.map_cons, List.cons_append] at hids
        obtain ⟨ha, hrest⟩ := List.cons.inj hids
        rcases List.append_eq_singleton_iff.mp hrest with ⟨hfew, -⟩ | ⟨-, hnone⟩
        · obtain rfl := List.map_eq_nil_iff.mp hfew
          rw [List.map_singleton, ha] at hbefore
          rw [hbefore] at hone
          exact .inr (Except.ok.inj hone)
        · cases hnone
    refine absurd ?_ hclock
    unfold OnClock
    rcases hnow with hnow | hnow
    · rw [hnow]
      decide +kernel
    · rw [hnow]
      decide +kernel
  · rw [hcut] at hextracts
    cases Except.ok.inj hextracts

/-- A wait that is called off after half of that time sees both tasks at once. With the extractor
the second one is not looked at any more. -/
theorem slowly_calledOff :
    let waiter : Waiter Unit := ⟨finishing.transport, serviceUrl [""], "v1"⟩
    let options : WaitOptions := { WaitOptions.standard with cancel := some (.due 50000000) }
    let w : World Unit := ⟨0, [], [], ()⟩
    Harmless finishing (serviceUrl [""]) "v1" slowly ["t", "u"] ∧
    ((Session.run (waiter.waitForTasks 1 options ["t", "u"]) w).map fun (outcome, after) =>
      (outcome.map (List.map Task.state), after.now, after.sent.length)) =
        .ok (.ok [.finished, .finished], 0, 2) ∧
    ((Session.run (waiter.waitAllAndExtract 1 options slowly ["t", "u"]) w).map
      fun (outcome, after) => (outcome, after.now, after.sent.length)) =
        .ok (.error (.cancelled "u"), 100000000, 1) ∧
    ((Session.run (waiter.waitAllAndExtract 1 .standard slowly ["t", "u"]) w).map
      fun (outcome, after) => (outcome, after.now, after.sent.length)) =
        .ok (.ok ["t", "u"], 200000000, 2) := by
  refine ⟨harmless_slowly _ _ _, ?_, ?_, ?_⟩
  all_goals decide +kernel

end CloudApi.Waiter
