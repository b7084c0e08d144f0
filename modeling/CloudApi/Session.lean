import CloudApi.Error
import CloudApi.Url.Basic
import CloudApi.Json.Basic

/-! Sessions: computations that send requests and take time.

A session runs in a world that has a clock, a record of the requests sent and a peer that
answers. It ends in a value or in an error; a loop that is given too few rounds has no outcome
at all, and neither has a session that computes a moment beyond the last one of the clock. The
clock moves only where a session lets time pass. Alarms may be set around a part of a session:
time does not pass beyond the first alarm, and that part ends in the error of the alarm instead.
What ends at the very moment of an alarm has ended. -/
namespace CloudApi

inductive Method where
  | get | post | put | patch | delete | head | options | trace
  | other (name : String)
  deriving DecidableEq

namespace Method

def name : Method → String
  | get => "GET"
  | post => "POST"
  | put => "PUT"
  | patch => "PATCH"
  | delete => "DELETE"
  | head => "HEAD"
  | options => "OPTIONS"
  | trace => "TRACE"
  | other name => name

def ofName (name : String) : Method :=
  ([get, post, put, patch, delete, head, options, trace].find? (·.name == name)).getD (other name)

/-- Whether sending a request twice has the effect of sending it once. -/
def isIdempotent : Method → Bool
  | get | put | delete | head | options | trace => true
  | post | patch | other _ => false

end Method

structure Request where
  method : Method
  url : Url
  headers : List (String × String)
  body : Option Json
  deriving DecidableEq

/-- A moment at which what is going on is given up, and the error it ends in. -/
structure Alarm where
  time : Nat
  error : Error
  deriving DecidableEq

/-- The world of a session; times are in nanoseconds. -/
structure World (σ : Type) where
  now : Nat
  alarms : List Alarm
  /-- The requests sent, each with its time. A request is there once, whatever redirects are followed
  for it. -/
  sent : List (Nat × Request)
  peer : σ

/-- Why a session has no outcome. -/
inductive Halt where
  /-- A loop was given too few rounds. -/
  | unfinished
  /-- A moment is beyond the last one of the clock. -/
  | overflow
  deriving DecidableEq

abbrev Session (σ α : Type) := ExceptT Error (StateT (World σ) (Except Halt)) α

/-- The alarm that goes off first among those before a moment. -/
def Alarm.first? (alarms : List Alarm) (moment : Nat) : Option Alarm :=
  (alarms.filter (·.time < moment)).foldl (fun best a =>
    match best with
    | some b => if a.time < b.time then some a else some b
    | none => some a) none

namespace Session
variable {σ α : Type}

/-- What a session comes to in a world. -/
def run (part : Session σ α) (w : World σ) : Except Halt (Except Error α × World σ) :=
  part w

def halt (why : Halt) : Session σ α :=
  fun _ => .error why

def now : Session σ Nat :=
  return (← get).now

/-- The last moment of the clock, which counts its seconds in 64 bits with a sign. -/
def lastMoment : Nat :=
  0x8000000000000000 * 1000000000 - 1

/-- The moment that comes a span after another. -/
def later (moment span : Nat) : Session σ Nat :=
  if moment + span ≤ lastMoment then return moment + span else halt .overflow

/-- Lets time pass, unless an alarm goes off before. -/
def pass (span : Nat) : Session σ Unit := do
  let w ← get
  match Alarm.first? w.alarms (w.now + span) with
  | none => set { w with now := w.now + span }
  | some a =>
    set { w with now := max w.now a.time }
    throw a.error

/-- A part of a session under alarms. -/
def within (alarms : List Alarm) (part : Session σ α) : Session σ α := fun w =>
  (part { w with alarms }).map fun (outcome, after) => (outcome, { after with alarms := w.alarms })

/-- The outcome of a part, an error being one. -/
def attempt (part : Session σ α) : Session σ (Except Error α) := fun w =>
  (part w).map fun (outcome, after) => (.ok outcome, after)

def ofExcept (outcome : Except Error α) : Session σ α := fun w =>
  .ok (outcome, w)

/-- Records a request as sent and lets the peer act on it. -/
def send {β : Type} (act : σ → Request → β × σ) (request : Request) : Session σ β := do
  let w ← get
  let (b, peer) := act w.peer request
  set { w with sent := w.sent ++ [(w.now, request)], peer }
  return b

end Session

/-- A way to send a request and to receive the JSON of the answer. -/
structure Transport (σ : Type) where
  send : Method → Url → Option Json → Session σ Json

namespace Transport
variable {σ : Type}

def get (t : Transport σ) (url : Url) : Session σ Json :=
  t.send .get url none

end Transport

/-- What a server has to say to a request, and how long it takes. -/
structure Answer where
  latency : Nat
  outcome : Except Error Json

/-- A server whose answers may depend on all requests before. -/
abbrev Server (σ : Type) := σ → Request → Answer × σ

/-- Requests carried straight to a server. -/
def Server.transport {σ : Type} (server : Server σ) : Transport σ where
  send method url body := do
    let answer ← Session.send server ⟨method, url, [], body⟩
    Session.pass answer.latency
    Session.ofExcept answer.outcome

end CloudApi
