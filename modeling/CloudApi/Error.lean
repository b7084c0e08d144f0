/-! What can go wrong.

Every error has a code for programs and a message for people. A missing resource is told apart
from all other failures, because confirming a deletion depends on it. -/
namespace CloudApi

inductive Error where
  /-- The service cannot be reached or says so itself; trying again may help. -/
  | serviceUnavailable (reason : String)
  /-- A response has another shape than the one asked for. -/
  | decode (reason : String)
  | invalidId (text : String)
  | config (reason : String)
  | http (reason : String)
  | timeout (reason : String)
  | notFound (reason : String)
  | invalidRequest (reason : String)
  | badRequest (reason : String)
  | validation (reason : String)
  | conflict (reason : String)
  /-- A task ended in failure. -/
  | taskFailed (task detail : String)
  /-- A task was still going on, in the given state, when the wait for it ended. -/
  | taskTimeout (task lastState : String)
  /-- The wait for a task was called off. -/
  | cancelled (task : String)
  /-- A finished task names no resource under the key. -/
  | missingCreatedResource (task key : String)
  /-- A resource is found after its deletion. -/
  | resourceStillExists (resource : String)
  | invalidEndpoint (reason : String)
  deriving DecidableEq

namespace Error

def code : Error → String
  | serviceUnavailable _ => "SERVICE_UNAVAILABLE"
  | decode _ => "DECODE_ERROR"
  | invalidId _ => "INVALID_ID"
  | config _ => "CONFIG_ERROR"
  | http _ => "HTTP_ERROR"
  | timeout _ => "TIMEOUT"
  | notFound _ => "NOT_FOUND"
  | invalidRequest _ => "INVALID_REQUEST"
  | badRequest _ => "BAD_REQUEST"
  | validation _ => "VALIDATION_ERROR"
  | conflict _ => "CONFLICT"
  | taskFailed .. => "TASK_FAILED"
  | taskTimeout .. => "TASK_TIMEOUT"
  | cancelled _ => "CANCELLED"
  | missingCreatedResource .. => "MISSING_CREATED_RESOURCE"
  | resourceStillExists _ => "RESOURCE_STILL_EXISTS"
  | invalidEndpoint _ => "INVALID_ENDPOINT"

def message : Error → String
  | serviceUnavailable reason => "Service unavailable: " ++ reason
  | decode reason => "Failed to decode response: " ++ reason
  | invalidId text => "Invalid ID: " ++ text
  | config reason => "Configuration error: " ++ reason
  | http reason => "HTTP request failed: " ++ reason
  | timeout reason => "Request timed out: " ++ reason
  | notFound reason => "Not found: " ++ reason
  | invalidRequest reason => "Invalid request: " ++ reason
  | badRequest reason => "Bad request: " ++ reason
  | validation reason => "Validation error: " ++ reason
  | conflict reason => "Conflict: " ++ reason
  | taskFailed task detail => "Task " ++ task ++ " failed: " ++ detail
  | taskTimeout task lastState =>
    "Timed out waiting for task " ++ task ++ " (last state: " ++ lastState ++ ")"
  | cancelled task => "Cancelled while waiting for task " ++ task
  | missingCreatedResource task key =>
    "Task " ++ task ++ " did not report created resource `" ++ key ++ "`"
  | resourceStillExists resource => "Resource still exists: " ++ resource
  | invalidEndpoint reason => "Invalid endpoint: " ++ reason

def isNotFound : Error → Bool
  | notFound _ => true
  | _ => false

/-- Whether the error points at a defect of the client or the server. -/
def isDefect : Error → Bool
  | config _ | decode _ | invalidEndpoint _ => true
  | _ => false

/-- Whether the same request may succeed when it is sent again. -/
def isTransient : Error → Bool
  | timeout _ | serviceUnavailable _ => true
  | _ => false

end Error

end CloudApi
