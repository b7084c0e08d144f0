import CloudApi.Config
import CloudApi.Http.Retry
import CloudApi.Http.Status
import CloudApi.Json.Parser
import CloudApi.Session
import CloudApi.Task.Basic
import CloudApi.Text.Base64
import CloudApi.Text.Quoted

/-! Clients of a service over HTTP.

A client sends a request with its token and reads the answer as JSON. A request that may be sent
twice is sent again after a failure that may pass, as often as the retry policy allows. User and
password of a URL are sent in a header and not in the URL. The token shows nowhere but in the
header it is sent in. -/
namespace CloudApi

/-- What comes of sending a request. -/
inductive Reply where
  /-- There is no connection. -/
  | refused
  /-- The connection is closed without a response. -/
  | dropped
  /-- Nothing comes until the client gives up. -/
  | stalled
  /-- The response breaks off inside its body, or the body is late behind its headers. -/
  | truncated
  | answered (status : Nat) (body : List UInt8)
  deriving DecidableEq

structure Delivery where
  latency : Nat
  reply : Reply

/-- The other end of all connections; what it does may depend on all requests before. Redirects are on
its side: a request is one that is handed to the HTTP library, and the reply is the response that
the library is led to in the end. -/
abbrev Peer (σ : Type) := σ → Request → Delivery × σ

/-- How a client uses the HTTP library. The pool of connections and the compression are matters of the
library: no request that is handed to it and no outcome of one depends on them, and all they do here
is to show. -/
structure HttpSettings where
  timeout : Duration
  retry : RetryPolicy
  poolIdleTimeout : Duration
  poolMaxIdle : UInt64
  compression : Bool
  deriving DecidableEq

namespace HttpSettings

def standard : HttpSettings :=
  ⟨.ofSeconds 30, .standard, .ofSeconds 90, 10, true⟩

/-- How settings show in messages. -/
def text (h : HttpSettings) : String :=
  "ClientConfig \x7b timeout: " ++ h.timeout.text ++ ", retry_policy: " ++ h.retry.text ++
    ", pool_idle_timeout: " ++ h.poolIdleTimeout.text ++ ", pool_max_idle_per_host: " ++
    Text.Numeral.decimalText h.poolMaxIdle.toNat ++ ", enable_compression: " ++
    (if h.compression then "true" else "false") ++ " \x7d"

end HttpSettings

/-- What a client is made of. -/
structure ClientSetup where
  /-- A URL whose path ends in a slash. -/
  base : Url
  http : HttpSettings
  token : Option String
  userAgent : String
  deriving DecidableEq

structure Client where
  base : Url
  http : HttpSettings
  token : Option String
  userAgent : String
  deriving DecidableEq

/-- Whether a text can be sent as the value of a header. -/
def isHeaderValue (s : String) : Bool :=
  s.toList.all fun c => c == '\t' || (0x20 ≤ c.toNat && c.toNat != 0x7F)

namespace ClientSetup

def standardUserAgent : String := "stratus-rust/0.1.0"

def ofText (base : String) : Except Error ClientSetup :=
  match Url.parse base with
  | .ok u => .ok ⟨u.withFinalSlash, .standard, none, standardUserAgent⟩
  | .error e => .error (.config ("Invalid API base URL `" ++ base ++ "`: " ++ e.message))

def ofConfig (c : Config) : Except Error ClientSetup := do
  let setup ← ofText c.url
  let retry := { RetryPolicy.standard with maxRetries := c.maxRetries }
  .ok { setup with
    http := { HttpSettings.standard with timeout := c.timeout, retry }
    token := c.token }

def withRetry (setup : ClientSetup) (retry : RetryPolicy) : ClientSetup :=
  { setup with http := { setup.http with retry } }

def build (setup : ClientSetup) : Except Error Client :=
  if isHeaderValue setup.userAgent then
    .ok ⟨setup.base, setup.http, setup.token, setup.userAgent⟩
  else .error (.config "Failed to build HTTP client: builder error")

end ClientSetup

namespace Client

open Text

/-- A client of a URL with defaults for all else. -/
def ofText (base : String) : Except Error Client := do
  (← ClientSetup.ofText base).build

/-- How a client shows in messages. -/
def text (c : Client) : String :=
  "ServiceClient \x7b base_url: " ++ Quoted.quote c.base.text ++ ", retry_policy: " ++
    c.http.retry.text ++ ", token: " ++
    (if c.token.isSome then "Some(\"<redacted>\")" else "None") ++ " \x7d"

/-- The value of the header that carries a token. -/
def authorization (token : String) : String :=
  "APIKey " ++ token

def unmask (cs : List Char) : Option String :=
  (Utf8.decode? (Url.Percent.decode cs)).map String.ofList

/-- User and password of a URL, if it has any that are text. -/
def credentials? (u : Url) : Option (String × Option String) := do
  let a ← u.authority
  let user ← unmask a.user
  let password := if a.password.isEmpty then none else unmask a.password
  if user.isEmpty ∧ password.isNone then none else some (user, password)

def withoutCredentials (u : Url) : Url :=
  match credentials? u with
  | some _ => { u with authority := u.authority.map fun a => { a with user := [], password := [] } }
  | none => u

/-- The header that carries user and password. -/
def credentialHeaders (u : Url) : List (String × String) :=
  match credentials? u with
  | some (user, password) =>
    [("authorization", "Basic " ++
      String.ofList (Base64.encode (Utf8.ofString (user ++ ":" ++ password.getD ""))))]
  | none => []

def tokenHeaders (c : Client) : List (String × String) :=
  match c.token with
  | some token => [("authorization", authorization token)]
  | none => []

/-- The request as it is sent. -/
def request (c : Client) (method : Method) (url : Url) (body : Option Json) : Request where
  method := method
  url := withoutCredentials url
  headers :=
    credentialHeaders url ++ ("accept", "application/json") :: c.tokenHeaders ++
      (if body.isSome then [("content-type", "application/json")] else []) ++
      [("user-agent", c.userAgent)]
  body := body

/-- Whether a URL is one of this protocol. -/
def isWeb (u : Url) : Bool :=
  u.scheme == "http".toList || u.scheme == "https".toList

/-- Why a request cannot be sent at all. What the HTTP library refuses on top of that is left out: URLs
of more than 65534 characters and odd characters in the name of a host. -/
def obstacle? (c : Client) (url : Url) : Option Error :=
  if c.token.any fun token => !isHeaderValue (authorization token) then
    some (.http "builder error")
  else if !isWeb url then
    some (.http ("builder error for url (" ++ (withoutCredentials url).text ++ ")"))
  else none

/-- The body of a response that is a success. -/
def readBody (url : Url) (status : Nat) (body : List UInt8) : Except Error Json :=
  if status = 204 ∨ body = [] then .ok .null
  else
    match Json.Parser.parse body with
    | .ok v => .ok v
    | .error e =>
      .error (.decode ("Failed to parse response for `" ++ url.text ++ "`: " ++ e.message))

def readResponse (url : Url) (status : Nat) (body : List UInt8) : Except Error Json :=
  if Http.isSuccess status then readBody url status body
  else .error (Http.statusError status (String.ofList (Utf8.decode body)))

/-- The failure to get a response from a URL. -/
def sendFailure (url : Url) : String :=
  "error sending request for url (" ++ (withoutCredentials url).text ++ ")"

/-- What a reply means for the request for a URL. -/
def outcome (url : Url) : Reply → Except Error Json
  | .refused => .error (.serviceUnavailable (sendFailure url))
  | .dropped => .error (.http (sendFailure url))
  | .stalled => .error (.timeout (sendFailure url))
  | .truncated =>
    .error (.http "Failed to read response body: error decoding response body")
  | .answered status body => readResponse url status body

variable {σ : Type}

/-- The reply within the time the client allows. A connection that takes more than ten seconds to open
is given up as well; it is one of those that stall, and takes the whole time here. A body that is
late behind its headers does not stall but is truncated, so that it is not asked for again. -/
def awaited (c : Client) (d : Delivery) : Delivery :=
  if d.reply = .stalled ∨ c.http.timeout.toNanos < d.latency then
    ⟨c.http.timeout.toNanos, .stalled⟩
  else d

/-- One attempt at a request: it is handed to the HTTP library once. -/
def attempt (c : Client) (peer : Peer σ) (method : Method) (url : Url) (body : Option Json) :
    Session σ (Except Error Json) :=
  match c.obstacle? url with
  | some e => return .error e
  | none => do
    let d := c.awaited (← Session.send peer (c.request method url body))
    Session.pass d.latency
    return outcome url d.reply

/-- Attempts at a request, with `left` retries left after `done` of them. The attempts are counted in
32 bits. That the count overflows is left out: it takes a policy with the most retries there can be,
and the failure of all of them. -/
def attempts (c : Client) (peer : Peer σ) (method : Method) (url : Url) (body : Option Json) :
    (left : Nat) → (done : UInt32) → Session σ Json
  | left, done => do
    match ← c.attempt peer method url body with
    | .ok v => return v
    | .error e =>
      match left with
      | 0 => throw e
      | left + 1 =>
        if e.isTransient && method.isIdempotent then
          Session.pass (c.http.retry.delay (done + 1)).toNanos
          c.attempts peer method url body left (done + 1)
        else throw e

/-- The client as a way to reach a peer. -/
def transport (c : Client) (peer : Peer σ) : Transport σ where
  send method url body := c.attempts peer method url body c.http.retry.maxRetries.toNat 0

/-- Sends a mutation and gives the tasks it started. -/
def submit (c : Client) (peer : Peer σ) (method : Method) (url : Url) (body : Option Json) :
    Session σ TaskList := do
  let answer ← (c.transport peer).send method url body
  Session.ofExcept (TaskList.ofBody answer)

end Client

end CloudApi
