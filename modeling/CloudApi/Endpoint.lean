import CloudApi.Family
import CloudApi.Text.Quoted
import CloudApi.Url.Reference

/-! The URLs of the service.

Resources live under the base URL at `version/family/project/region`, a single one and the
actions on it in further segments; tasks live at `version/tasks/id`. -/
namespace CloudApi

/-- A family of resources within a project and a region. -/
structure Endpoint where
  version : String
  family : Family
  project : UInt64
  region : UInt64
  deriving DecidableEq

namespace Endpoint

open Text

/-- Segments with slashes between them. -/
def segmentsText (segments : List String) : String :=
  "/".intercalate segments

/-- The reference to a resource below the base URL. -/
def reference (e : Endpoint) (segments : List String) : String :=
  segmentsText
    ([e.version, e.family.name, Numeral.decimalText e.project.toNat,
      Numeral.decimalText e.region.toNat] ++ segments)

/-- A path below the base URL; messages call it `what`. -/
def resolve (what : String) (base : Url) (path : String) : Except Error Url :=
  match base.join path with
  | .ok u => .ok u
  | .error e =>
    .error (.invalidEndpoint ("Invalid " ++ what ++ " path `" ++ path ++ "`: " ++ e.message))

/-- The URL of a resource, with the segments of an action behind it. -/
def resource (e : Endpoint) (base : Url) (segments : List String) : Except Error Url :=
  resolve "resource" base (e.reference segments)

/-- The URL of all resources. -/
def collection (e : Endpoint) (base : Url) : Except Error Url :=
  e.resource base []

/-- The URL of a task. -/
def task (base : Url) (version id : String) : Except Error Url :=
  resolve "task" base (segmentsText [version, "tasks", id])

/-- How an endpoint shows in messages. -/
def text (e : Endpoint) : String :=
  "ResourcePath \x7b api_version: " ++ Quoted.quote e.version ++ ", family: " ++ e.family.variant ++
    ", project_id: " ++ Numeral.decimalText e.project.toNat ++ ", region_id: " ++
    Numeral.decimalText e.region.toNat ++ " \x7d"

end Endpoint

end CloudApi
