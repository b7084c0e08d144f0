import CloudApi.Duration
import CloudApi.Endpoint
import CloudApi.Json.Record
import CloudApi.Validation

/-! The configuration of a client.

A configuration is read from JSON with defaults for all but the URL and the scope, and written
without its token. Reading does not check it; `Config.create` does. -/
namespace CloudApi

/-- How mutations wait for their tasks unless told otherwise. -/
structure WaitDefaults where
  wait : Bool
  timeoutSeconds : UInt64
  pollMillis : UInt64
  deriving DecidableEq

namespace WaitDefaults

open Json Text

def standard : WaitDefaults :=
  ⟨true, 3600, 1000⟩

def timeout (d : WaitDefaults) : Duration :=
  .ofSeconds d.timeoutSeconds

def pollInterval (d : WaitDefaults) : Duration :=
  .ofMillis d.pollMillis

def record : Record WaitDefaults where
  name := "TaskWaitConfig"
  shape := [Bool, UInt64, UInt64]
  fields :=
    .cons (.withDefault "wait" standard.wait Decoder.bool Json.bool) <|
    .cons (.withDefault "timeout_secs" standard.timeoutSeconds Decoder.uint64 Json.nat) <|
    .cons (.withDefault "poll_interval_ms" standard.pollMillis Decoder.uint64 Json.nat) .nil
  build := fun (wait, timeout, poll, ()) => ⟨wait, timeout, poll⟩
  parts := fun d => (d.wait, d.timeoutSeconds, d.pollMillis, ())

def validate (d : WaitDefaults) : List Validation.Finding :=
  Validation.range "timeout_secs" 1 (some 86400) d.timeoutSeconds.toNat ++
    Validation.range "poll_interval_ms" 10 (some 60000) d.pollMillis.toNat

/-- How the defaults show in messages. -/
def text (d : WaitDefaults) : String :=
  "TaskWaitConfig \x7b wait: " ++ (if d.wait then "true" else "false") ++ ", timeout_secs: " ++
    Numeral.decimalText d.timeoutSeconds.toNat ++ ", poll_interval_ms: " ++
    Numeral.decimalText d.pollMillis.toNat ++ " \x7d"

end WaitDefaults

/-- How many items a list asks for at a time unless told otherwise. -/
structure PageDefaults where
  limit : UInt32
  deriving DecidableEq

namespace PageDefaults

open Json

def standard : PageDefaults :=
  ⟨100⟩

def record : Record PageDefaults where
  name := "PaginationConfig"
  shape := [UInt32]
  fields :=
    .cons (.withDefault "limit" standard.limit Decoder.uint32 fun n => nat n.toUInt64) .nil
  build := fun (limit, ()) => ⟨limit⟩
  parts := fun d => (d.limit, ())

def validate (d : PageDefaults) : List Validation.Finding :=
  Validation.range "limit" 1 (some 1000) d.limit.toNat

end PageDefaults

structure Config where
  url : String
  version : String
  project : UInt64
  region : UInt64
  /-- Sent with every request, never written. -/
  token : Option String
  timeoutSeconds : UInt64
  maxRetries : UInt32
  wait : WaitDefaults
  paging : PageDefaults
  deriving DecidableEq

namespace Config

open Json

def standardVersion : String := "v1"

def standardTimeoutSeconds : UInt64 := 30

def standardMaxRetries : UInt32 := 3

def record : Record Config where
  name := "StratusClientConfig"
  shape := [String, String, UInt64, UInt64, Option String, UInt64, UInt32, WaitDefaults,
    PageDefaults]
  fields :=
    .cons (.required "api_url" Decoder.string Json.string) <|
    .cons (.withDefault "api_version" standardVersion Decoder.string Json.string) <|
    .cons (.required "project_id" Decoder.uint64 nat) <|
    .cons (.required "region_id" Decoder.uint64 nat) <|
    .cons ⟨"api_token", Decoder.string.optional, some none, fun _ => none⟩ <|
    .cons (.withDefault "request_timeout_secs" standardTimeoutSeconds Decoder.uint64 nat) <|
    .cons (.withDefault "max_retries" standardMaxRetries Decoder.uint32
      fun n => nat n.toUInt64) <|
    .cons (.withDefault "task_wait" .standard WaitDefaults.record.decode
      WaitDefaults.record.encode) <|
    .cons (.withDefault "pagination" .standard PageDefaults.record.decode
      PageDefaults.record.encode) .nil
  build := fun (url, version, project, region, token, timeout, retries, wait, paging, ()) =>
    ⟨url, version, project, region, token, timeout, retries, wait, paging⟩
  parts := fun c => (c.url, c.version, c.project, c.region, c.token, c.timeoutSeconds,
    c.maxRetries, c.wait, c.paging, ())

def validate (c : Config) : List Validation.Finding :=
  Validation.url "api_url" c.url ++
    Validation.length "api_version" 1 8 c.version ++
    Validation.range "project_id" 1 none c.project.toNat ++
    Validation.range "region_id" 1 none c.region.toNat ++
    Validation.range "request_timeout_secs" 1 (some 300) c.timeoutSeconds.toNat ++
    Validation.range "max_retries" 0 (some 10) c.maxRetries.toNat ++
    Validation.nested "task_wait" c.wait.validate ++
    Validation.nested "pagination" c.paging.validate

/-- The configuration of a URL and a scope with defaults for all else, if it is valid. -/
def create (url : String) (project region : UInt64) : Except Error Config :=
  let c : Config :=
    { url, project, region
      version := standardVersion
      token := none
      timeoutSeconds := standardTimeoutSeconds
      maxRetries := standardMaxRetries
      wait := .standard
      paging := .standard }
  match c.validate with
  | [] => .ok c
  | findings => .error (.config ("Invalid configuration: " ++ Validation.summary findings))

def timeout (c : Config) : Duration :=
  .ofSeconds c.timeoutSeconds

def parseUrl (c : Config) : Except Error Url :=
  match Url.parse c.url with
  | .ok u => .ok u
  | .error e => .error (.config ("Invalid API URL: " ++ e.message))

/-- A family of resources in the scope of the configuration. -/
def endpoint (c : Config) (family : Family) : Endpoint :=
  ⟨c.version, family, c.project, c.region⟩

end Config

end CloudApi
