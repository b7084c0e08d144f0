import CloudApi.Config
import CloudApi.Session

/-! How to wait for a task: how long at most, how long between two looks at it, what to do when
it failed, and what may call the wait off. -/
namespace CloudApi

/-- When a wait is called off: never, before it began, or at a time. -/
inductive Cancellation where
  | never
  | already
  | due (time : Nat)
  deriving DecidableEq

/-- Whether the wait is called off by a time. -/
def Cancellation.past (c : Cancellation) (now : Nat) : Bool :=
  match c with
  | never => false
  | already => true
  | due time => time < now

structure WaitOptions where
  timeout : Duration
  pollInterval : Duration
  /-- Whether a task that failed fails the wait. -/
  throwOnFailure : Bool
  cancel : Option Cancellation
  deriving DecidableEq

namespace WaitOptions

def ofDefaults (d : WaitDefaults) : WaitOptions :=
  ⟨d.timeout, d.pollInterval, true, none⟩

def standard : WaitOptions :=
  ofDefaults .standard

def ofTimeout (timeout : Duration) : WaitOptions :=
  { standard with timeout }

/-- The options of a mutation under defaults, or none if it is not waited for. -/
def configured (d : WaitDefaults) : Option WaitOptions :=
  if d.wait then some (ofDefaults d) else none

end WaitOptions

end CloudApi
