import CloudApi.Network.Request
import CloudApi.Resource

/-! Clients of networks. Their lists go by links, and can be taken one network at a time. -/
namespace CloudApi

abbrev NetworkClient := ResourceClient .network Network

namespace NetworkClient

def userAgent : String := "stratus-networks/0.1.0"

def setup (c : Config) : Except Error ResourceSetup :=
  ResourceSetup.ofConfig userAgent c

def setupOf (url : String) (project region : UInt64) : Except Error ResourceSetup :=
  ResourceSetup.ofScope userAgent url project region

def build (s : ResourceSetup) : Except Error NetworkClient :=
  s.build .networks .linked Network.record.decode

variable {σ : Type} (c : NetworkClient) (peer : Peer σ)

/-- How a client shows in messages. -/
def text : String :=
  ResourceClient.text c "NetworksClient"

/-- The networks of a filter, page by page. -/
def list (filter : NetworkFilter) : Except Error Pager :=
  ResourceClient.list c filter.limit.isSome filter.query

def listAll (rounds : Nat) (filter : NetworkFilter) : Session σ (List Network) :=
  ResourceClient.listAll c peer rounds filter.limit.isSome filter.query

def create (rounds : Nat) (request : CreateNetwork) (wait : Option WaitOptions) :
    Session σ (Outcome Network) :=
  ResourceClient.create c peer rounds request.validate (CreateNetwork.record.encode request) wait

def rename (id : NetworkId) (name : String) : Session σ Network :=
  let request : RenameNetwork := ⟨name⟩
  ResourceClient.change c peer id request.validate (RenameNetwork.record.encode request)

/-- A list taken one network at a time: what is left of the page at hand, and the pager for the
pages after it. -/
structure Stream where
  waiting : List Network
  pager : Pager
  deriving DecidableEq

def stream (filter : NetworkFilter) : Except Error Stream :=
  (c.list filter).map fun pager => ⟨[], pager⟩

/-- The next network, or an error, or nothing at the end. A page is fetched when all networks of
the one before were taken. A page that does not decode is one error, and the pages go on behind
it. -/
def next : (rounds : Nat) → Stream → Session σ (Option (Except Error Network) × Stream)
  | _, ⟨n :: waiting, pager⟩ => return (some (.ok n), ⟨waiting, pager⟩)
  | 0, _ => Session.halt .unfinished
  | rounds + 1, ⟨[], pager⟩ => do
    match ← pager.nextOfStream (c.transport peer) with
    | (none, pager) => return (none, ⟨[], pager⟩)
    | (some (.error e), pager) => return (some (.error e), ⟨[], pager⟩)
    | (some (.ok page), pager) =>
      match page.items c.decode with
      | .error e => return (some (.error e), ⟨[], pager⟩)
      | .ok items => next rounds ⟨items, pager⟩

/-- Up to `limit` entries of a stream; the end counts as one, shown as nothing. -/
def taken (rounds : Nat) : (limit : Nat) → Stream →
    Session σ (List (Option (Except Error Network)))
  | 0, _ => return []
  | limit + 1, stream => do
    match ← next c peer rounds stream with
    | (none, _) => return [none]
    | (some entry, stream) => return some entry :: (← taken rounds limit stream)

end NetworkClient

end CloudApi
