import CloudApi.Envelope
import CloudApi.Text.Caseless
import CloudApi.Timestamp.Field

/-! Tasks: operations that go on at the server after a mutation was accepted.

A task ends in the state `FINISHED` or `ERROR`; states the library does not know are kept as
they came and count as going on. What a task created is listed in a map whose shape depends on
the operation. -/
namespace CloudApi

inductive TaskState where
  | new | running | finished | error
  | unknown (raw : String)
  deriving DecidableEq

namespace TaskState

open Text

def text : TaskState → String
  | new => "NEW"
  | running => "RUNNING"
  | finished => "FINISHED"
  | error => "ERROR"
  | unknown raw => raw

/-- Whether a task in the state has ended. -/
def isTerminal : TaskState → Bool
  | finished | error => true
  | _ => false

/-- The state a text names in any case of its letters. -/
def ofText (raw : String) : TaskState :=
  let named := Caseless.capitals raw
  if named = "NEW".toList then new
  else if named = "RUNNING".toList then running
  else if named = "FINISHED".toList then finished
  else if named = "ERROR".toList then error
  else unknown raw

def decoder : Json.Decoder TaskState := fun v =>
  (Json.Decoder.string v).map ofText

def encode (s : TaskState) : Json :=
  .string s.text

end TaskState

structure Task where
  id : String
  state : TaskState
  kind : Option String
  /-- What the task created, by family. -/
  created : Option (List (String × Json))
  error : Option String
  request : Option String
  user : Option UInt64
  client : Option UInt64
  project : Option UInt64
  region : Option UInt64
  acknowledgedBy : Option UInt64
  createdOn : Option Timestamp
  updatedOn : Option Timestamp
  finishedOn : Option Timestamp
  data : Option Json
  deriving DecidableEq

namespace Task

open Json

def record : Record Task where
  name := "Task"
  shape := [String, TaskState, Option String, Option (List (String × Json)), Option String,
    Option String, Option UInt64, Option UInt64, Option UInt64, Option UInt64, Option UInt64,
    Option Timestamp, Option Timestamp, Option Timestamp, Option Json]
  fields :=
    .cons (.required "id" Decoder.string Json.string) <|
    .cons (.required "state" TaskState.decoder TaskState.encode) <|
    .cons (.optional "task_type" Decoder.string Json.string) <|
    .cons (.optional "created_resources" Decoder.object Json.object) <|
    .cons (.optional "error" Decoder.string Json.string) <|
    .cons (.optional "request_id" Decoder.string Json.string) <|
    .cons (.optional "user_id" Decoder.uint64 nat) <|
    .cons (.optional "client_id" Decoder.uint64 nat) <|
    .cons (.optional "project_id" Decoder.uint64 nat) <|
    .cons (.optional "region_id" Decoder.uint64 nat) <|
    .cons (.optional "acknowledged_by" Decoder.uint64 nat) <|
    .cons (Timestamp.field "created_on") <|
    .cons (Timestamp.field "updated_on") <|
    .cons (Timestamp.field "finished_on") <|
    .cons (.optional "data" Decoder.value fun v => v) .nil
  build := fun (id, state, kind, created, error, request, user, client, project, region,
      acknowledgedBy, createdOn, updatedOn, finishedOn, data, ()) =>
    ⟨id, state, kind, created, error, request, user, client, project, region, acknowledgedBy,
      createdOn, updatedOn, finishedOn, data⟩
  parts := fun t => (t.id, t.state, t.kind, t.created, t.error, t.request, t.user, t.client,
    t.project, t.region, t.acknowledgedBy, t.createdOn, t.updatedOn, t.finishedOn, t.data, ())

/-- What is told about a failure. -/
def errorDetail (t : Task) : String :=
  match t.error with
  | some detail => if detail.isEmpty then "task reported ERROR without detail" else detail
  | none => "task reported ERROR without detail"

def missing (t : Task) (key : String) : Error :=
  .missingCreatedResource t.id key

/-- The value created under a key; `null` counts as nothing. -/
def created? (t : Task) (key : String) : Option Json :=
  ((t.created.bind fun fields => field? fields key)).filter (· != .null)

/-- What the task created under a key. -/
def createdResource {α : Type} (t : Task) (decode : Decoder α) (key : String) : Except Error α :=
  match t.created? key with
  | none => .error (t.missing key)
  | some v =>
    Envelope.explain ("Task " ++ t.id ++ " created resource " ++ cited key ++
      " has unexpected shape") (decode v)

/-- The identifiers created under a key: one at least, and nothing but texts. -/
def createdIds (t : Task) (key : String) : Except Error (List String) :=
  match t.createdResource (Decoder.list Decoder.string) key with
  | .ok (id :: ids) => .ok (id :: ids)
  | _ => .error (t.missing key)

def firstCreatedId (t : Task) (key : String) : Except Error String :=
  match t.createdIds key with
  | .ok (id :: _) => .ok id
  | .ok [] => .error (t.missing key)
  | .error e => .error e

end Task

/-- The tasks a mutation started, in the order they are carried out. -/
structure TaskList where
  tasks : List String
  deriving DecidableEq

namespace TaskList

open Json

def record : Record TaskList where
  name := "TaskResults"
  shape := [List String]
  fields :=
    .cons (.required "tasks" (Decoder.list Decoder.string) fun ids => .array (ids.map .string))
      .nil
  build := fun (tasks, ()) => ⟨tasks⟩
  parts := fun l => (l.tasks, ())

/-- The tasks in the answer to a mutation. -/
def ofBody (body : Json) : Except Error TaskList :=
  Envelope.whole record.decode body

end TaskList

/-- What a mutation comes to: a result if its tasks were waited for, the tasks themselves if
not. -/
inductive Outcome (α : Type) where
  | completed (value : α)
  | submitted (tasks : TaskList)

namespace Outcome
variable {α : Type}

def completed? : Outcome α → Option α
  | completed value => some value
  | submitted _ => none

def submitted? : Outcome α → Option TaskList
  | completed _ => none
  | submitted tasks => some tasks

end Outcome

end CloudApi
