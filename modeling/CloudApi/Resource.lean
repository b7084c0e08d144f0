import CloudApi.Http.Client
import CloudApi.Id
import CloudApi.Pager
import CloudApi.Query
import CloudApi.Task.Waiter

/-! Clients of one family of resources.

Resources of a kind are listed page by page, fetched by their identifier, and created, changed
and deleted by mutations that start tasks. A mutation that is not waited for gives its tasks; one
that is waited for gives the resource as it is then. A deletion is done when the resource is not
found any more. An invalid request is not sent. -/
namespace CloudApi

/-- What a client of a family is made of. -/
structure ResourceSetup where
  client : ClientSetup
  version : String
  project : UInt64
  region : UInt64
  pageLimit : UInt32
  wait : WaitDefaults
  deriving DecidableEq

/-- A client of resources `α` with identifiers of a kind. -/
structure ResourceClient (kind : IdKind) (α : Type) where
  client : Client
  endpoint : Endpoint
  style : PageStyle
  decode : Json.Decoder α
  /-- How many items a page asks for unless told otherwise. -/
  pageLimit : UInt32
  wait : WaitDefaults

namespace ResourceSetup

def ofConfig (userAgent : String) (c : Config) : Except Error ResourceSetup := do
  let client ← ClientSetup.ofConfig c
  .ok ⟨{ client with userAgent }, c.version, c.project, c.region, c.paging.limit, c.wait⟩

/-- A setup of a URL and a scope with defaults for all else. -/
def ofScope (userAgent url : String) (project region : UInt64) : Except Error ResourceSetup := do
  ofConfig userAgent (← Config.create url project region)

def build {kind : IdKind} {α : Type} (setup : ResourceSetup) (family : Family)
    (style : PageStyle) (decode : Json.Decoder α) : Except Error (ResourceClient kind α) := do
  let client ← setup.client.build
  .ok
    { client
      endpoint := ⟨setup.version, family, setup.project, setup.region⟩
      style
      decode
      pageLimit := setup.pageLimit
      wait := setup.wait }

end ResourceSetup

namespace ResourceClient

open Text

variable {kind : IdKind} {α σ : Type} (c : ResourceClient kind α) (peer : Peer σ)

def transport : Transport σ :=
  c.client.transport peer

/-- How a client of some name shows in messages. -/
def text (name : String) : String :=
  name ++ " \x7b inner: " ++ c.client.text ++ ", path: " ++ c.endpoint.text ++ ", api_version: " ++
    Quoted.quote c.endpoint.version ++ ", page_limit: " ++
    Numeral.decimalText c.pageLimit.toNat ++ ", task_wait: " ++ c.wait.text ++ " \x7d"

/-- How mutations are waited for unless told otherwise. -/
def defaultWait : Option WaitOptions :=
  WaitOptions.configured c.wait

def waiter : Waiter σ :=
  ⟨c.transport peer, c.client.base, c.endpoint.version⟩

/-- The URL of a resource, or of an action on it. -/
def url (id : Id kind) (action : List String) : Except Error Url :=
  c.endpoint.resource c.client.base (id.text :: action)

/-- The URL of the first page of a list: the page limit, unless the query has one, and then the
query. -/
def listUrl (hasLimit : Bool) (query : Query) : Except Error Url := do
  let u ← c.endpoint.collection c.client.base
  let limit := if hasLimit then [] else [("limit", Numeral.decimalText c.pageLimit.toNat)]
  .ok (u.appendPairs (limit ++ query.pairs))

def list (hasLimit : Bool) (query : Query) : Except Error Pager :=
  (c.listUrl hasLimit query).map (Pager.start c.style)

/-- All resources of a list. -/
def listAll (rounds : Nat) (hasLimit : Bool) (query : Query) : Session σ (List α) := do
  let pager ← Session.ofExcept (c.list hasLimit query)
  pager.allItems (c.transport peer) c.decode rounds

def get (id : Id kind) : Session σ α := do
  let u ← Session.ofExcept (c.url id [])
  let body ← (c.transport peer).get u
  Session.ofExcept (Envelope.whole c.decode body)

/-- Sends a valid mutation and settles its tasks. -/
def mutate {β : Type} (rounds : Nat) (findings : List Validation.Finding) (method : Method)
    (url : Except Error Url) (body : Option Json) (wait : Option WaitOptions)
    (extract : String → Session σ β) : Session σ (Outcome β) := do
  if findings ≠ [] then throw (.validation (Validation.summary findings))
  let u ← Session.ofExcept url
  let tasks ← c.client.submit peer method u body
  (c.waiter peer).settle rounds tasks wait extract

/-- The resource a finished task created. -/
def created (task : String) : Session σ α := do
  let finished ← (c.waiter peer).getTask task
  let raw ← Session.ofExcept (finished.firstCreatedId c.endpoint.family.createdKey)
  let id ← Session.ofExcept (Id.parse raw)
  c.get peer id

/-- Creates a resource from a request. -/
def create (rounds : Nat) (findings : List Validation.Finding) (request : Json)
    (wait : Option WaitOptions) : Session σ (Outcome α) :=
  c.mutate peer rounds findings .post (c.endpoint.collection c.client.base) (some request) wait
    (c.created peer)

/-- That a resource is not found any more. -/
def confirmGone (id : Id kind) : Session σ Unit := do
  let fetched ← Session.attempt (c.get peer id)
  Session.ofExcept (confirmDeleted fetched id.text)

def delete (rounds : Nat) (id : Id kind) (wait : Option WaitOptions) : Session σ (Outcome Unit) :=
  c.mutate peer rounds [] .delete (c.url id []) none wait fun _ => c.confirmGone peer id

/-- Carries out an action on a resource, which is fetched again afterwards. -/
def act (rounds : Nat) (id : Id kind) (action : String) (findings : List Validation.Finding)
    (request : Json) (wait : Option WaitOptions) : Session σ (Outcome α) :=
  c.mutate peer rounds findings .post (c.url id [action]) (some request) wait fun _ =>
    c.get peer id

/-- Changes a resource at once; the answer is the resource. -/
def change (id : Id kind) (findings : List Validation.Finding) (request : Json) :
    Session σ α := do
  if findings ≠ [] then throw (.validation (Validation.summary findings))
  let u ← Session.ofExcept (c.url id [])
  let body ← (c.transport peer).send .patch u (some request)
  Session.ofExcept (Envelope.whole c.decode body)

end ResourceClient

end CloudApi
