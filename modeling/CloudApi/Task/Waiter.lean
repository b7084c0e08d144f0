import CloudApi.Task.Basic
import CloudApi.Task.Wait
import CloudApi.Text.Quoted

/-! Waiting for tasks.

A waiter looks at a task again and again until it has ended, with a pause after each look. The
wait is over at its deadline: a look that has not come back by then is given up, and a pause is
cut short so that there is a last look at the deadline itself. A failed look ends the wait.
Looks are not repeated by the waiter. -/
namespace CloudApi

structure Waiter (σ : Type) where
  transport : Transport σ
  base : Url
  version : String

namespace Waiter

open Text

variable {σ : Type} (w : Waiter σ)

/-- The wait that stands for one that would go beyond the last moment: thirty years. -/
def farFuture : Nat :=
  86400 * 365 * 30 * 1000000000

/-- When a wait that begins now is over. The far future is computed in any case. -/
def deadline (now : Nat) (timeout : Duration) : Session σ Nat := do
  let far ← Session.later now farFuture
  return if now + timeout.toNanos ≤ Session.lastMoment then now + timeout.toNanos else far

/-- The end of a wait at its deadline, in the state last seen. -/
def timedOut (id : String) (last : Option TaskState) : Error :=
  .taskTimeout id (match last with
    | some s => s.text
    | none => "NOT_OBSERVED")

/-- What ends a part of a wait before its time. The deadline goes before a cancellation at the
same moment. -/
def alarms (id : String) (limit : Nat) (options : WaitOptions) (last : Option TaskState) :
    List Alarm :=
  ⟨limit, timedOut id last⟩ ::
    match options.cancel with
    | some (.due time) => [⟨time, .cancelled id⟩]
    | _ => []

/-- A part of a wait, given up at `limit` or when the wait is called off. -/
def bounded {α : Type} (id : String) (limit : Nat) (options : WaitOptions)
    (last : Option TaskState) (part : Session σ α) : Session σ α := do
  let now ← Session.now
  if options.cancel.any (·.past now) then throw (.cancelled id)
  else Session.within (alarms id limit options last) part

/-- A look at a task. -/
def getTask (id : String) : Session σ Task := do
  let url ← Session.ofExcept (Endpoint.task w.base w.version id)
  let body ← w.transport.get url
  Session.ofExcept (Envelope.whole Task.record.decode body)

/-- The identifiers a task created under a key, from one look at it. -/
def createdIds (id key : String) : Session σ (List String) := do
  Session.ofExcept ((← w.getTask id).createdIds key)

/-- What a look comes to: the end of the wait, or that it goes on. -/
def verdict (id : String) (options : WaitOptions) (task : Task) : Option (Except Error Task) :=
  match task.state with
  | .finished => some (.ok task)
  | .error =>
    if options.throwOnFailure then some (.error (.taskFailed id task.errorDetail))
    else some (.ok task)
  | _ => none

/-- The pause after a look, as long as the deadline leaves time. -/
def pause (now limit : Nat) (options : WaitOptions) : Nat :=
  min options.pollInterval.toNanos (limit - now)

/-- Looks at a task from now on until a deadline. That a count of the looks in 32 bits overflows is left
out. -/
def poll (id : String) (options : WaitOptions) (limit : Nat) :
    (rounds : Nat) → Option TaskState → Session σ Task
  | 0, _ => Session.halt .unfinished
  | rounds + 1, last => do
    let task ← bounded id limit options last (w.getTask id)
    match verdict id options task with
    | some outcome => Session.ofExcept outcome
    | none =>
      let now ← Session.now
      if limit ≤ now then throw (timedOut id (some task.state))
      else
        let span := pause now limit options
        let bound ← Session.later limit span
        bounded id bound options (some task.state) (Session.pass span)
        poll id options limit rounds (some task.state)

/-- Waits until a task has ended. -/
def waitForTask (rounds : Nat) (id : String) (options : WaitOptions) : Session σ Task := do
  let now ← Session.now
  let limit ← deadline now options.timeout
  w.poll id options limit rounds none

/-- Waits for a task and takes a result from it. -/
def waitAndExtract {α : Type} (rounds : Nat) (id : String) (options : WaitOptions)
    (extract : String → Session σ α) : Session σ α := do
  let _ ← w.waitForTask rounds id options
  extract id

/-- Waits for tasks one after the other. -/
def waitForTasks (rounds : Nat) (options : WaitOptions) : List String → Session σ (List Task)
  | [] => return []
  | id :: ids => do
    let task ← w.waitForTask rounds id options
    return task :: (← waitForTasks rounds options ids)

/-- Waits for tasks one after the other and takes a result from each before the next. -/
def waitAllAndExtract {α : Type} (rounds : Nat) (options : WaitOptions)
    (extract : String → Session σ α) : List String → Session σ (List α)
  | [] => return []
  | id :: ids => do
    let a ← w.waitAndExtract rounds id options extract
    return a :: (← waitAllAndExtract rounds options extract ids)

/-- Waits for a task that others follow: it must not have failed. -/
def waitForEarlier (rounds : Nat) (id : String) (options : WaitOptions) : Session σ Unit := do
  let task ← w.waitForTask rounds id options
  if task.state = .error then throw (.taskFailed id task.errorDetail)

/-- Waits for all tasks in order and takes the result from the last. -/
def settleList {α : Type} (rounds : Nat) (options : WaitOptions)
    (extract : String → Session σ α) : List String → Session σ α
  | [] => throw (.decode "Mutation response listed no tasks")
  | [id] => w.waitAndExtract rounds id options extract
  | id :: ids => do
    w.waitForEarlier rounds id options
    settleList rounds options extract ids

/-- Brings a mutation to its end: its tasks as they are, or the result of waiting for them. -/
def settle {α : Type} (rounds : Nat) (tasks : TaskList) (wait : Option WaitOptions)
    (extract : String → Session σ α) : Session σ (Outcome α) :=
  match wait with
  | none => return .submitted tasks
  | some options => return .completed (← w.settleList rounds options extract tasks.tasks)

/-- How a waiter shows in messages. -/
def text : String :=
  "TaskWaiter \x7b base_url: " ++ Quoted.quote w.base.text ++ ", api_version: " ++
    Quoted.quote w.version ++ ", .. \x7d"

end Waiter

/-- What fetching a resource after its deletion says: only that it is not found confirms it. -/
def confirmDeleted {α : Type} (fetched : Except Error α) (resource : String) : Except Error Unit :=
  match fetched with
  | .ok _ => .error (.resourceStillExists resource)
  | .error (.notFound _) => .ok ()
  | .error e => .error e

end CloudApi
