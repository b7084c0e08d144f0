import CloudApi.Proofs.Task.Stretch

/-! Settling a mutation.

The tasks of a mutation are watched one after the other, each from the world in which the one
before was seen finished (`Passed`). Where this stops decides what the mutation comes to
(`Course`): at a wait that fails, at an earlier task that failed, or at the last task, and only
there do the extractor and the choice to fail with the task come in. -/
namespace CloudApi.Waiter
variable {σ α : Type} (server : Server σ) (base : Url) (version : String)
  (options : WaitOptions) (rounds : Nat)

/-- A wait from one world to another with what it saw, whatever the choice. -/
structure Watched (id : String) (w after : World σ) (seen : Except Error Task) : Prop where
  run : ∀ throws, Session.run (waitForTask ⟨server.transport, base, version⟩ rounds id
    (choosing options throws)) w = .ok (judged id throws seen, after)
  stretch : Stretch base version id (w.now + options.timeout.toNanos) w after
  shows : ∀ t, seen = .ok t →
    Shows server base version id w after t ∧ (t.state = .finished ∨ t.state = .error)

/-- Tasks that were seen finished one after the other. -/
inductive Passed : List String → World σ → World σ → Prop where
  | nil (w : World σ) : Passed [] w w
  | cons {id : String} {ids : List String} {w mid after : World σ} {t : Task} :
    Watched server base version options rounds id w mid (.ok t) → t.state = .finished →
      Passed ids mid after → Passed (id :: ids) w after

/-- A wait watches its task, unless its rounds or its clock are too short. -/
theorem watched_or_halted (id : String) {w : World σ} {latest : Nat} (hnow : w.now ≤ latest) :
    (∃ seen after, Watched server base version options rounds id w after seen) ∨
      ¬ Ample options rounds latest ∧ ∃ why, ∀ throws, Session.run (waitForTask
        ⟨server.transport, base, version⟩ rounds id (choosing options throws)) w = .error why := by
  rcases awaited_or_halted id options ⟨server.transport, base, version⟩ server.timely rounds hnow
    with ⟨steps, seen, after, hawaited⟩ | ⟨why, hshort, hhalts⟩
  · exact .inl ⟨seen, after, hawaited.run, hawaited.stretch, fun t ht =>
      ⟨hawaited.looks.shows hawaited.steps t ht, hawaited.looks.ended t ht⟩⟩
  · exact .inr ⟨hshort.not_ample, why, hhalts⟩

variable {server base version options rounds}

theorem Passed.now_le {ids : List String} {w after : World σ}
    (h : Passed server base version options rounds ids w after) :
    after.now ≤ w.now + ids.length * options.timeout.toNanos := by
  induction h with
  | nil w => exact Nat.le_add_right _ _
  | cons hwatched _ _ ih =>
    have hmid := hwatched.stretch.le_limit
    rw [List.length_cons, Nat.succ_mul]
    omega

/-! ### All tasks -/

/-- What waiting for tasks in order comes to, for each choice and each extractor. -/
def comes (server : Server σ) (base : Url) (version : String) (options : WaitOptions)
    (rounds : Nat) (ids : List String) (w : World σ) (throws : Bool)
    (extract : String → Session σ α) : Except Halt (Except Error (Outcome α) × World σ) :=
  (Session.run (settleList ⟨server.transport, base, version⟩ rounds (choosing options throws)
    extract ids) w).map fun (outcome, after) => (outcome.map .completed, after)

theorem comes_cons {id : String} {ids : List String} (h : ids ≠ []) {w after : World σ}
    {seen : Except Error Task}
    (hwatched : Watched server base version options rounds id w after seen) (throws : Bool)
    (extract : String → Session σ α) :
    comes server base version options rounds (id :: ids) w throws extract =
      match seen with
      | .error e => .ok (.error e, after)
      | .ok t =>
        if t.state = .error then .ok (.error (.taskFailed id t.errorDetail), after)
        else comes server base version options rounds ids after throws extract := by
  unfold comes
  rw [run_settleList_cons hwatched.run throws extract h]
  cases seen with
  | error e => rfl
  | ok t =>
    dsimp only
    split
    · rfl
    · rfl

theorem comes_singleton {id : String} {w after : World σ} {seen : Except Error Task}
    (hwatched : Watched server base version options rounds id w after seen) (throws : Bool)
    (extract : String → Session σ α) :
    comes server base version options rounds [id] w throws extract =
      match judged id throws seen with
      | .error e => .ok (.error e, after)
      | .ok _ => (Session.run (extract id) after).map fun (outcome, after) =>
          (outcome.map .completed, after) := by
  unfold comes
  rw [run_settleList_singleton hwatched.run throws extract]
  cases judged id throws seen with
  | error e => rfl
  | ok t => rfl

theorem comes_of_halt {id : String} (later : List String) {w : World σ} {why : Halt}
    {throws : Bool} (h : Session.run (waitForTask ⟨server.transport, base, version⟩ rounds id
      (choosing options throws)) w = .error why) (extract : String → Session σ α) :
    comes server base version options rounds (id :: later) w throws extract = .error why := by
  unfold comes
  rw [run_settleList_of_halt later h extract]
  rfl

/-- What a mutation with tasks comes to, by the task at which its waits stop. The choice and the
extractor count only at the last task. -/
inductive Course (server : Server σ) (base : Url) (version : String) (options : WaitOptions)
    (rounds : Nat) (ids : List String) (w : World σ)
    (come : Bool → (String → Session σ α) → Except Halt (Except Error (Outcome α) × World σ)) :
    Prop where
  /-- A wait fails; its error is the outcome, and no later task is looked at. -/
  | waitFails {passed later : List String} {id : String} {before after : World σ} {e : Error}
    (split : ids = passed ++ id :: later)
    (passes : Passed server base version options rounds passed w before)
    (stops : Watched server base version options rounds id before after (.error e))
    (outcome : ∀ throws extract, come throws extract = .ok (.error e, after))
  /-- An earlier task failed; that is the outcome whatever the choice. -/
  | earlierFailed {passed later : List String} {id : String} {before after : World σ} {t : Task}
    (split : ids = passed ++ id :: later) (earlier : later ≠ [])
    (passes : Passed server base version options rounds passed w before)
    (stops : Watched server base version options rounds id before after (.ok t))
    (failed : t.state = .error)
    (outcome : ∀ throws extract,
      come throws extract = .ok (.error (.taskFailed id t.errorDetail), after))
  /-- The last task ends; unless its failure is chosen to count, the outcome is what the extractor
  makes of it. -/
  | lastEnds {passed : List String} {id : String} {before after : World σ} {t : Task}
    (split : ids = passed ++ [id])
    (passes : Passed server base version options rounds passed w before)
    (stops : Watched server base version options rounds id before after (.ok t))
    (outcome : ∀ throws extract, come throws extract =
      if t.state = .error ∧ throws then .ok (.error (.taskFailed id t.errorDetail), after)
      else (Session.run (extract id) after).map fun (outcome, after) =>
        (outcome.map .completed, after))
  /-- A wait runs out of rounds or leaves the clock. -/
  | waitHalts {passed later : List String} {id : String} {before : World σ} {why : Halt}
    (split : ids = passed ++ id :: later)
    (passes : Passed server base version options rounds passed w before)
    (stops : ∀ throws, Session.run (waitForTask ⟨server.transport, base, version⟩ rounds id
      (choosing options throws)) before = .error why)
    (short : ¬ Ample options rounds (w.now + ids.length * options.timeout.toNanos))
    (outcome : ∀ throws extract, come throws extract = .error why)

theorem Ample.of_le {latest latest' : Nat} (h : Ample options rounds latest')
    (hle : latest ≤ latest') : Ample options rounds latest :=
  ⟨h.1, by have := h.2.1; omega, by have := h.2.2; omega⟩

/-- A task that was seen finished leaves the course to the tasks that follow. -/
theorem Course.cons {id : String} {ids : List String} {w mid : World σ} {t : Task}
    {come come' : Bool → (String → Session σ α) → Except Halt (Except Error (Outcome α) × World σ)}
    (hwatched : Watched server base version options rounds id w mid (.ok t))
    (hfinished : t.state = .finished) (hcome : come' = come)
    (h : Course server base version options rounds ids mid come) :
    Course server base version options rounds (id :: ids) w come' := by
  subst hcome
  have hmid := hwatched.stretch.le_limit
  cases h with
  | waitFails split passes stops outcome =>
    exact .waitFails (congrArg (id :: ·) split) (.cons hwatched hfinished passes) stops outcome
  | earlierFailed split earlier passes stops failed outcome =>
    exact .earlierFailed (congrArg (id :: ·) split) earlier (.cons hwatched hfinished passes) stops
      failed outcome
  | lastEnds split passes stops outcome =>
    exact .lastEnds (congrArg (id :: ·) split) (.cons hwatched hfinished passes) stops outcome
  | waitHalts split passes stops short outcome =>
    refine .waitHalts (congrArg (id :: ·) split) (.cons hwatched hfinished passes) stops
      (fun hample => short (hample.of_le ?_)) outcome
    rw [List.length_cons, Nat.succ_mul]
    omega

/-- **Waiting for tasks in order takes a course.** -/
theorem comes_course {ids : List String} (h : ids ≠ []) (w : World σ) :
    Course server base version options rounds ids w
      fun throws (extract : String → Session σ α) =>
        comes server base version options rounds ids w throws extract := by
  induction ids generalizing w with
  | nil => exact absurd rfl h
  | cons id ids ih =>
    rcases watched_or_halted server base version options rounds id
      (Nat.le_add_right w.now ((id :: ids).length * options.timeout.toNanos)) with
      ⟨seen, after, hwatched⟩ | ⟨hshort, why, hhalts⟩
    · by_cases hlast : ids = []
      · subst hlast
        have hcomes (throws) (extract : String → Session σ α) :=
          comes_singleton hwatched throws extract
        cases seen with
        | error e => exact .waitFails (List.nil_append _).symm (.nil w) hwatched hcomes
        | ok t =>
          refine .lastEnds (List.nil_append _).symm (.nil w) hwatched fun throws extract => ?_
          rw [hcomes throws extract]
          by_cases hfailed : t.state = .error ∧ throws
          · simp only [judged, if_pos hfailed]
          · simp only [judged, if_neg hfailed]
      · have hcomes (throws) (extract : String → Session σ α) :=
          comes_cons hlast hwatched throws extract
        cases seen with
        | error e => exact .waitFails (List.nil_append _).symm (.nil w) hwatched hcomes
        | ok t =>
          rcases (hwatched.shows t rfl).2 with hfinished | hfailed
          · refine Course.cons hwatched hfinished ?_ (ih hlast after)
            funext throws extract
            rw [hcomes throws extract]
            simp only [hfinished, reduceCtorEq, if_false]
          · refine .earlierFailed (List.nil_append _).symm hlast (.nil w) hwatched hfailed
              fun throws extract => ?_
            rw [hcomes throws extract]
            simp only [hfailed, if_true]
    · exact .waitHalts (List.nil_append _).symm (.nil w) hhalts hshort
        fun throws extract => comes_of_halt ids (hhalts throws) extract

/-- Waits that come one after the other last no longer than their timeouts together. -/
theorem Passed.waits_le {passed later : List String} {id : String} {w before after : World σ}
    {seen : Except Error Task}
    (h : Passed server base version options rounds passed w before)
    (hwatched : Watched server base version options rounds id before after seen) :
    after.now ≤ w.now + (passed ++ id :: later).length * options.timeout.toNanos := by
  have hbefore := h.now_le
  have hafter := hwatched.stretch.le_limit
  calc after.now ≤ before.now + options.timeout.toNanos := hafter
    _ ≤ w.now + (passed.length + 1) * options.timeout.toNanos := by rw [Nat.succ_mul]; omega
    _ ≤ w.now + (passed ++ id :: later).length * options.timeout.toNanos := by
      refine Nat.add_le_add_left (Nat.mul_le_mul_right _ ?_) _
      rw [List.length_append, List.length_cons]
      omega

/-- **Settling a mutation.** Without options its tasks are handed on, and nothing is asked or
extracted; without tasks it fails, and nothing is asked or extracted. With both it takes a
course that neither the extractor nor the choice whether a failed task fails its wait has a part
in before the last task, and the waits last no longer than their timeouts together. -/
theorem settle_course (server : Server σ) (base : Url) (version : String) (rounds : Nat)
    (options : WaitOptions) (tasks : TaskList) (w : World σ) :
    (∀ extract : String → Session σ α,
      Session.run (settle ⟨server.transport, base, version⟩ rounds tasks none extract) w =
        .ok (.ok (.submitted tasks), w)) ∧
    (tasks.tasks = [] → ∀ extract : String → Session σ α,
      Session.run (settle ⟨server.transport, base, version⟩ rounds tasks (some options) extract) w =
        .ok (.error (.decode "Mutation response listed no tasks"), w)) ∧
    (tasks.tasks ≠ [] → Course server base version options rounds tasks.tasks w
      fun throws (extract : String → Session σ α) =>
        Session.run (settle ⟨server.transport, base, version⟩ rounds tasks
          (some (choosing options throws)) extract) w) ∧
    ∀ passed id later before after seen, tasks.tasks = passed ++ id :: later →
      Passed server base version options rounds passed w before →
      Watched server base version options rounds id before after seen →
      after.now ≤ w.now + tasks.tasks.length * options.timeout.toNanos := by
  have hsettle (throws : Bool) (extract : String → Session σ α) :
      Session.run (settle ⟨server.transport, base, version⟩ rounds tasks
        (some (choosing options throws)) extract) w =
      comes server base version options rounds tasks.tasks w throws extract := by
    unfold settle comes
    cases hrun : Session.run (settleList ⟨server.transport, base, version⟩ rounds
        (choosing options throws) extract tasks.tasks) w with
    | error why => exact Session.run_bind_halt hrun
    | ok ended =>
      obtain ⟨outcome, after⟩ := ended
      cases outcome with
      | error e => exact Session.run_bind_error hrun
      | ok a => exact Session.run_bind_ok hrun
  refine ⟨fun extract => rfl, fun hempty extract => ?_, fun hne => ?_, ?_⟩
  · show Session.run (settleList ⟨server.transport, base, version⟩ rounds options extract
      tasks.tasks >>= fun a => pure (Outcome.completed a)) w = _
    rw [hempty]
    rfl
  · simp only [hsettle]
    exact comes_course hne w
  · intro passed id later before after seen hsplit hpassed hwatched
    rw [hsplit]
    exact hpassed.waits_le hwatched

end CloudApi.Waiter
