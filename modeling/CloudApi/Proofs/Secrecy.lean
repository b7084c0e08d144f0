import CloudApi.Network.Client
import CloudApi.Proofs.Records
import CloudApi.Proofs.Resource.Create
import CloudApi.Proofs.Twins
import CloudApi.Volume.Client

/-! The token tells nothing.

A client sends its token in one header and looks at it for nothing else but whether it can be sent.
Two clients that have different tokens send requests that differ in that header only
(`Client.alike_request`), so that over a peer that does not look at the header each attempt, each
retry and each operation of one goes the way of the other (`token_tells_nothing`). -/
namespace CloudApi

/-! ### Requests that differ in their token -/

/-- A request without what tells who sends it. -/
def Request.withoutAuthorization (r : Request) : Request :=
  { r with headers := r.headers.filter (·.1 ≠ "authorization") }

/-- A peer that answers the same to requests that differ in their authorization only, whatever it
keeps of them. -/
structure Unseeing {σ : Type} (peer : Peer σ) (same : σ → σ → Prop) : Prop where
  delivery {s s' : σ} {r r' : Request} (states : same s s')
    (requests : r.withoutAuthorization = r'.withoutAuthorization) : (peer s r).1 = (peer s' r').1
  next {s s' : σ} {r r' : Request} (states : same s s')
    (requests : r.withoutAuthorization = r'.withoutAuthorization) :
    same (peer s r).2 (peer s' r').2

/-- The same header, or the one that carries the token, each with its own. -/
def SameHeader (token token' : String) (header header' : String × String) : Prop :=
  header = header' ∨
    header = ("authorization", Client.authorization token) ∧
      header' = ("authorization", Client.authorization token')

/-- Requests that are the same but for the token that one header carries. -/
structure Request.Alike (token token' : String) (r r' : Request) : Prop where
  method : r.method = r'.method
  url : r.url = r'.url
  headers : List.Forall₂ (SameHeader token token') r.headers r'.headers
  body : r.body = r'.body

theorem Request.Alike.withoutAuthorization_eq {token token' : String} {r r' : Request}
    (h : r.Alike token token' r') : r.withoutAuthorization = r'.withoutAuthorization := by
  obtain ⟨method, url, headers, body⟩ := r
  obtain ⟨method', url', headers', body'⟩ := r'
  obtain ⟨rfl, rfl, hheaders, rfl⟩ := h
  have hfilter : headers.filter (·.1 ≠ "authorization") =
      headers'.filter (·.1 ≠ "authorization") := by
    change List.Forall₂ (SameHeader token token') headers headers' at hheaders
    induction hheaders with
    | nil => rfl
    | cons hfirst _ ih =>
      rcases hfirst with rfl | ⟨rfl, rfl⟩
      · rw [List.filter_cons, List.filter_cons, ih]
      · exact ih
  unfold withoutAuthorization
  rw [hfilter]

/-- Requests are the same but for their tokens, and peers to which they are the same. -/
def tokenView {σ : Type} (same : σ → σ → Prop) (token token' : String) : View σ :=
  ⟨same, Request.Alike token token'⟩

namespace Client

/-- The client with a token. -/
def withToken (c : Client) (token : String) : Client :=
  { c with token := some token }

theorem alike_request (c : Client) (token token' : String) (method : Method) (url : Url)
    (body : Option Json) :
    ((c.withToken token).request method url body).Alike token token'
      ((c.withToken token').request method url body) := by
  have hsame (headers : List (String × String)) :
      List.Forall₂ (SameHeader token token') headers headers :=
    List.forall₂_same.mpr fun _ _ => .inl rfl
  have htoken : List.Forall₂ (SameHeader token token') (c.withToken token).tokenHeaders
      (c.withToken token').tokenHeaders := .cons (.inr ⟨rfl, rfl⟩) .nil
  refine ⟨rfl, rfl, ?_, rfl⟩
  exact List.rel_append (List.rel_append (List.rel_append (hsame _) (.cons (.inl rfl) htoken))
    (hsame _)) (hsame _)

section Tokens
variable {σ : Type} {peer : Peer σ} {same : σ → σ → Prop} (hpeer : Unseeing peer same)
  (c : Client) {token token' : String} (htoken : isHeaderValue (authorization token))
  (htoken' : isHeaderValue (authorization token'))

include htoken htoken' in
/-- A token that can be sent is in the way of no request. -/
theorem obstacle?_withToken (url : Url) :
    (c.withToken token).obstacle? url = (c.withToken token').obstacle? url := by
  unfold obstacle? withToken
  rw [Option.any_some, Option.any_some, htoken, htoken']

include hpeer in
theorem twins_send {r r' : Request} (h : r.Alike token token' r') :
    (tokenView same token token').Twins (Session.send peer r) (Session.send peer r') := by
  rintro _ _ ⟨hrequests, hpeers⟩
  have hrun (r : Request) (w : World σ) : Session.run (Session.send peer r) w =
    .ok (.ok (peer w.peer r).1,
      { w with sent := w.sent ++ [(w.now, r)], peer := (peer w.peer r).2 }) := rfl
  rw [hrun, hrun]
  dsimp only
  rw [hpeer.delivery hpeers h.withoutAuthorization_eq]
  exact .ended (.same (List.rel_append hrequests (.cons ⟨rfl, h⟩ .nil))
    (hpeer.next hpeers h.withoutAuthorization_eq))

section Sending
variable (method : Method) (url : Url) (body : Option Json)

include hpeer htoken htoken'

theorem twins_attempt :
    (tokenView same token token').Twins ((c.withToken token).attempt peer method url body)
      ((c.withToken token').attempt peer method url body) := by
  unfold attempt
  rw [obstacle?_withToken c htoken htoken']
  split
  · exact .pure _
  · exact .bind (twins_send hpeer (c.alike_request token token' method url body)) fun _ =>
      .bind (.pass _) fun _ => .pure _

/-- **Attempts go the same way**: nothing that decides on a retry looks at the token. -/
theorem twins_attempts (left : Nat) (done : UInt32) :
    (tokenView same token token').Twins
      ((c.withToken token).attempts peer method url body left done)
      ((c.withToken token').attempts peer method url body left done) := by
  induction left generalizing done with
  | zero =>
    unfold attempts
    refine .bind (twins_attempt hpeer c htoken htoken' method url body) fun result => ?_
    split
    · exact .pure _
    · exact .throw _
  | succ left ih =>
    unfold attempts
    refine .bind (twins_attempt hpeer c htoken htoken' method url body) fun result => ?_
    split
    · exact .pure _
    · exact .ite (.bind (.pass _) fun _ => ih _) (.throw _)

end Sending

include hpeer htoken htoken'

theorem transports_withToken :
    (tokenView same token token').Transports ((c.withToken token).transport peer)
      ((c.withToken token').transport peer) :=
  fun method url body => twins_attempts hpeer c htoken htoken' method url body _ _

theorem twins_submit (method : Method) (url : Url) (body : Option Json) :
    (tokenView same token token').Twins ((c.withToken token).submit peer method url body)
      ((c.withToken token').submit peer method url body) :=
  .bind (transports_withToken hpeer c htoken htoken' method url body) fun _ => .ofExcept _

end Tokens

end Client

/-! ### Clients of a family -/

namespace ResourceClient
variable {kind : IdKind} {α : Type}

/-- The client with a token. -/
def withToken (c : ResourceClient kind α) (token : String) : ResourceClient kind α :=
  { c with client := c.client.withToken token }

section Tokens
variable {σ : Type} {peer : Peer σ} {same : σ → σ → Prop} (hpeer : Unseeing peer same)
  (c : ResourceClient kind α) {token token' : String}
  (htoken : isHeaderValue (Client.authorization token))
  (htoken' : isHeaderValue (Client.authorization token'))

include hpeer htoken htoken'

theorem transports_withToken :
    (tokenView same token token').Transports ((c.withToken token).transport peer)
      ((c.withToken token').transport peer) :=
  c.client.transports_withToken hpeer htoken htoken'

theorem twins_listAll (rounds : Nat) (hasLimit : Bool) (query : Query) :
    (tokenView same token token').Twins ((c.withToken token).listAll peer rounds hasLimit query)
      ((c.withToken token').listAll peer rounds hasLimit query) :=
  .bind (.ofExcept _) fun pager =>
    (c.transports_withToken hpeer htoken htoken').allItems c.decode rounds pager

theorem twins_get (id : Id kind) :
    (tokenView same token token').Twins ((c.withToken token).get peer id)
      ((c.withToken token').get peer id) :=
  .bind (.ofExcept _) fun url =>
    .bind ((c.transports_withToken hpeer htoken htoken').get url) fun _ => .ofExcept _

theorem twins_mutate {β : Type} (rounds : Nat) (findings : List Validation.Finding)
    (method : Method) (url : Except Error Url) (body : Option Json) (wait : Option WaitOptions)
    {extract extract' : String → Session σ β}
    (hextract : ∀ task, (tokenView same token token').Twins (extract task) (extract' task)) :
    (tokenView same token token').Twins
      ((c.withToken token).mutate peer rounds findings method url body wait extract)
      ((c.withToken token').mutate peer rounds findings method url body wait extract') := by
  have hsettle : (tokenView same token token').Twins
      (Session.ofExcept url >>= fun u =>
        (c.withToken token).client.submit peer method u body >>= fun tasks =>
          ((c.withToken token).waiter peer).settle rounds tasks wait extract)
      (Session.ofExcept url >>= fun u =>
        (c.withToken token').client.submit peer method u body >>= fun tasks =>
          ((c.withToken token').waiter peer).settle rounds tasks wait extract') :=
    .bind (.ofExcept _) fun u =>
      .bind (c.client.twins_submit hpeer htoken htoken' method u body) fun tasks =>
        (c.transports_withToken hpeer htoken htoken').settle c.client.base c.endpoint.version rounds
          tasks wait hextract
  exact .ite (.bind (.throw _) fun _ => hsettle) hsettle

theorem twins_created (task : String) :
    (tokenView same token token').Twins ((c.withToken token).created peer task)
      ((c.withToken token').created peer task) :=
  .bind ((c.transports_withToken hpeer htoken htoken').getTask c.client.base c.endpoint.version task)
    fun _ => .bind (.ofExcept _) fun _ => .bind (.ofExcept _) fun id =>
      c.twins_get hpeer htoken htoken' id

theorem twins_create (rounds : Nat) (findings : List Validation.Finding) (request : Json)
    (wait : Option WaitOptions) :
    (tokenView same token token').Twins
      ((c.withToken token).create peer rounds findings request wait)
      ((c.withToken token').create peer rounds findings request wait) :=
  c.twins_mutate hpeer htoken htoken' rounds findings .post _ _ wait
    (c.twins_created hpeer htoken htoken')

theorem twins_delete (rounds : Nat) (id : Id kind) (wait : Option WaitOptions) :
    (tokenView same token token').Twins ((c.withToken token).delete peer rounds id wait)
      ((c.withToken token').delete peer rounds id wait) :=
  c.twins_mutate hpeer htoken htoken' rounds [] .delete _ none wait fun _ =>
    .bind (.attempt (c.twins_get hpeer htoken htoken' id)) fun _ => .ofExcept _

theorem twins_act (rounds : Nat) (id : Id kind) (action : String)
    (findings : List Validation.Finding) (request : Json) (wait : Option WaitOptions) :
    (tokenView same token token').Twins
      ((c.withToken token).act peer rounds id action findings request wait)
      ((c.withToken token').act peer rounds id action findings request wait) :=
  c.twins_mutate hpeer htoken htoken' rounds findings .post _ _ wait fun _ =>
    c.twins_get hpeer htoken htoken' id

theorem twins_change (id : Id kind) (findings : List Validation.Finding) (request : Json) :
    (tokenView same token token').Twins ((c.withToken token).change peer id findings request)
      ((c.withToken token').change peer id findings request) := by
  have hsend : (tokenView same token token').Twins
      (Session.ofExcept (c.url id []) >>= fun u =>
        ((c.withToken token).transport peer).send .patch u (some request) >>= fun body =>
          Session.ofExcept (Envelope.whole c.decode body))
      (Session.ofExcept (c.url id []) >>= fun u =>
        ((c.withToken token').transport peer).send .patch u (some request) >>= fun body =>
          Session.ofExcept (Envelope.whole c.decode body)) :=
    .bind (.ofExcept _) fun u =>
      .bind (c.transports_withToken hpeer htoken htoken' .patch u _) fun _ => .ofExcept _
  exact .ite (.bind (.throw _) fun _ => hsend) hsend

end Tokens

end ResourceClient

namespace VolumeClient
variable {σ : Type} {peer : Peer σ} {same : σ → σ → Prop} (hpeer : Unseeing peer same)
  (c : VolumeClient) {token token' : String}
  (htoken : isHeaderValue (Client.authorization token))
  (htoken' : isHeaderValue (Client.authorization token'))

include hpeer htoken htoken'

theorem twins_create (rounds : Nat) (request : CreateVolume) (wait : Option WaitOptions) :
    (tokenView same token token').Twins (create (c.withToken token) peer rounds request wait)
      (create (c.withToken token') peer rounds request wait) :=
  ResourceClient.twins_create hpeer c htoken htoken' rounds _ _ wait

theorem twins_extend (rounds : Nat) (id : VolumeId) (size : UInt64) (wait : Option WaitOptions) :
    (tokenView same token token').Twins (extend (c.withToken token) peer rounds id size wait)
      (extend (c.withToken token') peer rounds id size wait) :=
  c.twins_act hpeer htoken htoken' rounds id _ _ _ wait

theorem twins_retype (rounds : Nat) (id : VolumeId) (typeName : VolumeType)
    (wait : Option WaitOptions) :
    (tokenView same token token').Twins (retype (c.withToken token) peer rounds id typeName wait)
      (retype (c.withToken token') peer rounds id typeName wait) :=
  c.twins_act hpeer htoken htoken' rounds id _ _ _ wait

theorem twins_rename (id : VolumeId) (name : String) :
    (tokenView same token token').Twins (rename (c.withToken token) peer id name)
      (rename (c.withToken token') peer id name) :=
  c.twins_change hpeer htoken htoken' id _ _

end VolumeClient

namespace NetworkClient
variable {σ : Type} {peer : Peer σ} {same : σ → σ → Prop} (hpeer : Unseeing peer same)
  (c : NetworkClient) {token token' : String}
  (htoken : isHeaderValue (Client.authorization token))
  (htoken' : isHeaderValue (Client.authorization token'))

include hpeer htoken htoken'

theorem twins_next (rounds : Nat) (stream : Stream) :
    (tokenView same token token').Twins (next (c.withToken token) peer rounds stream)
      (next (c.withToken token') peer rounds stream) := by
  have htransports := c.transports_withToken hpeer htoken htoken'
  induction rounds generalizing stream with
  | zero =>
    obtain ⟨_ | ⟨n, waiting⟩, pager⟩ := stream
    · exact .halt _
    · exact .pure _
  | succ rounds ih =>
    obtain ⟨_ | ⟨n, waiting⟩, pager⟩ := stream
    · refine .bind (htransports.nextOfStream pager) fun ⟨entry, pager⟩ => ?_
      rcases entry with _ | e | page
      · exact .pure _
      · exact .pure _
      · dsimp only
        have hdecode : (c.withToken token).decode = (c.withToken token').decode := rfl
        rw [hdecode]
        split
        · exact .pure _
        · exact ih _
    · exact .pure _

theorem twins_taken (rounds limit : Nat) (stream : Stream) :
    (tokenView same token token').Twins (taken (c.withToken token) peer rounds limit stream)
      (taken (c.withToken token') peer rounds limit stream) := by
  induction limit generalizing stream with
  | zero => exact .pure _
  | succ limit ih =>
    refine .bind (twins_next hpeer c htoken htoken' rounds stream) fun ⟨entry, stream⟩ => ?_
    cases entry with
    | none => exact .pure _
    | some entry => exact .bind (ih stream) fun _ => .pure _

theorem twins_create (rounds : Nat) (request : CreateNetwork) (wait : Option WaitOptions) :
    (tokenView same token token').Twins (create (c.withToken token) peer rounds request wait)
      (create (c.withToken token') peer rounds request wait) :=
  ResourceClient.twins_create hpeer c htoken htoken' rounds _ _ wait

theorem twins_rename (id : NetworkId) (name : String) :
    (tokenView same token token').Twins (rename (c.withToken token) peer id name)
      (rename (c.withToken token') peer id name) :=
  c.twins_change hpeer htoken htoken' id _ _

end NetworkClient

/-! ### All operations -/

/-- What can be done with the pages of a list. -/
inductive Pager.Operation : Type → Type 1 where
  | nextPage (pager : Pager) : Operation (Except Error (Option Page) × Pager)
  | eachPage {τ : Type} (visit : τ → Page → Except Error Bool × τ) (rounds : Nat) (seen : τ)
    (pager : Pager) : Operation (Except Error Unit × τ)
  | allPages (rounds : Nat) (pager : Pager) : Operation (List Page)
  | allItems {α : Type} (decode : Json.Decoder α) (rounds : Nat) (pager : Pager) :
    Operation (List α)
  | streamed (limit : Nat) (pager : Pager) : Operation (List (Option (Except Error Page)))

def Pager.Operation.run {σ β : Type} (t : Transport σ) : Pager.Operation β → Session σ β
  | .nextPage pager => pager.nextPage t
  | .eachPage visit rounds seen pager => pager.eachPage t visit rounds seen
  | .allPages rounds pager => pager.allPages t rounds
  | .allItems decode rounds pager => pager.allItems t decode rounds
  | .streamed limit pager => pager.streamed t limit

/-- What can be asked of a client of a service. -/
inductive Client.Operation : Type → Type 1 where
  | send (method : Method) (url : Url) (body : Option Json) : Operation Json
  | submit (method : Method) (url : Url) (body : Option Json) : Operation TaskList
  | pages {β : Type} (operation : Pager.Operation β) : Operation β
  | getTask (version id : String) : Operation Task
  | waitForTask (version : String) (rounds : Nat) (id : String) (options : WaitOptions) :
    Operation Task
  | waitForTasks (version : String) (rounds : Nat) (ids : List String) (options : WaitOptions) :
    Operation (List Task)

def Client.Operation.run {σ β : Type} (c : Client) (peer : Peer σ) :
    Client.Operation β → Session σ β
  | .send method url body => (c.transport peer).send method url body
  | .submit method url body => c.submit peer method url body
  | .pages operation => operation.run (c.transport peer)
  | .getTask version id => Waiter.getTask ⟨c.transport peer, c.base, version⟩ id
  | .waitForTask version rounds id options =>
    Waiter.waitForTask ⟨c.transport peer, c.base, version⟩ rounds id options
  | .waitForTasks version rounds ids options =>
    Waiter.waitForTasks ⟨c.transport peer, c.base, version⟩ rounds options ids

/-- What can be asked of a client of volumes. -/
inductive VolumeClient.Operation : Type → Type 1 where
  | list (filter : VolumeFilter) : Operation Pager
  | pages {β : Type} (operation : Pager.Operation β) : Operation β
  | listAll (rounds : Nat) (filter : VolumeFilter) : Operation (List Volume)
  | get (id : VolumeId) : Operation Volume
  | create (rounds : Nat) (request : CreateVolume) (wait : Option WaitOptions) :
    Operation (Outcome Volume)
  | delete (rounds : Nat) (id : VolumeId) (wait : Option WaitOptions) : Operation (Outcome Unit)
  | extend (rounds : Nat) (id : VolumeId) (size : UInt64) (wait : Option WaitOptions) :
    Operation (Outcome Volume)
  | retype (rounds : Nat) (id : VolumeId) (typeName : VolumeType) (wait : Option WaitOptions) :
    Operation (Outcome Volume)
  | rename (id : VolumeId) (name : String) : Operation Volume

def VolumeClient.Operation.run {σ β : Type} (c : VolumeClient) (peer : Peer σ) :
    VolumeClient.Operation β → Session σ β
  | .list filter => Session.ofExcept (VolumeClient.list c filter)
  | .pages operation => operation.run (c.transport peer)
  | .listAll rounds filter => VolumeClient.listAll c peer rounds filter
  | .get id => c.get peer id
  | .create rounds request wait => VolumeClient.create c peer rounds request wait
  | .delete rounds id wait => c.delete peer rounds id wait
  | .extend rounds id size wait => VolumeClient.extend c peer rounds id size wait
  | .retype rounds id typeName wait => VolumeClient.retype c peer rounds id typeName wait
  | .rename id name => VolumeClient.rename c peer id name

/-- What can be asked of a client of networks. -/
inductive NetworkClient.Operation : Type → Type 1 where
  | list (filter : NetworkFilter) : Operation Pager
  | pages {β : Type} (operation : Pager.Operation β) : Operation β
  | listAll (rounds : Nat) (filter : NetworkFilter) : Operation (List Network)
  | stream (filter : NetworkFilter) : Operation NetworkClient.Stream
  | next (rounds : Nat) (stream : NetworkClient.Stream) :
    Operation (Option (Except Error Network) × NetworkClient.Stream)
  | taken (rounds limit : Nat) (stream : NetworkClient.Stream) :
    Operation (List (Option (Except Error Network)))
  | get (id : NetworkId) : Operation Network
  | create (rounds : Nat) (request : CreateNetwork) (wait : Option WaitOptions) :
    Operation (Outcome Network)
  | delete (rounds : Nat) (id : NetworkId) (wait : Option WaitOptions) : Operation (Outcome Unit)
  | rename (id : NetworkId) (name : String) : Operation Network

def NetworkClient.Operation.run {σ β : Type} (c : NetworkClient) (peer : Peer σ) :
    NetworkClient.Operation β → Session σ β
  | .list filter => Session.ofExcept (NetworkClient.list c filter)
  | .pages operation => operation.run (c.transport peer)
  | .listAll rounds filter => NetworkClient.listAll c peer rounds filter
  | .stream filter => Session.ofExcept (NetworkClient.stream c filter)
  | .next rounds s => NetworkClient.next c peer rounds s
  | .taken rounds limit s => NetworkClient.taken c peer rounds limit s
  | .get id => c.get peer id
  | .create rounds request wait => NetworkClient.create c peer rounds request wait
  | .delete rounds id wait => c.delete peer rounds id wait
  | .rename id name => NetworkClient.rename c peer id name

theorem Pager.Operation.twins_run {σ β : Type} {v : View σ} {t t' : Transport σ}
    (h : v.Transports t t') (operation : Pager.Operation β) :
    v.Twins (operation.run t) (operation.run t') := by
  cases operation with
  | nextPage pager => exact h.nextPage pager
  | eachPage visit rounds seen pager => exact h.eachPage visit rounds seen pager
  | allPages rounds pager => exact h.allPages rounds pager
  | allItems decode rounds pager => exact h.allItems decode rounds pager
  | streamed limit pager => exact h.streamed limit pager

section Tokens
variable {σ β : Type} {peer : Peer σ} {same : σ → σ → Prop} (hpeer : Unseeing peer same)
  {token token' : String} (htoken : isHeaderValue (Client.authorization token))
  (htoken' : isHeaderValue (Client.authorization token'))

include hpeer htoken htoken'

theorem Client.Operation.twins_run (c : Client) (operation : Client.Operation β) :
    (tokenView same token token').Twins (operation.run (c.withToken token) peer)
      (operation.run (c.withToken token') peer) := by
  have htransports := c.transports_withToken hpeer htoken htoken'
  cases operation with
  | send method url body => exact htransports method url body
  | submit method url body => exact c.twins_submit hpeer htoken htoken' method url body
  | pages operation => exact operation.twins_run htransports
  | getTask version id => exact htransports.getTask c.base version id
  | waitForTask version rounds id options =>
    exact htransports.waitForTask c.base version rounds id options
  | waitForTasks version rounds ids options =>
    exact htransports.waitForTasks c.base version rounds options ids

theorem VolumeClient.Operation.twins_run (c : VolumeClient)
    (operation : VolumeClient.Operation β) :
    (tokenView same token token').Twins (operation.run (c.withToken token) peer)
      (operation.run (c.withToken token') peer) := by
  cases operation with
  | list filter => exact .ofExcept _
  | pages operation => exact operation.twins_run (c.transports_withToken hpeer htoken htoken')
  | listAll rounds filter => exact c.twins_listAll hpeer htoken htoken' rounds _ _
  | get id => exact c.twins_get hpeer htoken htoken' id
  | create rounds request wait =>
    exact VolumeClient.twins_create hpeer c htoken htoken' rounds request wait
  | delete rounds id wait => exact c.twins_delete hpeer htoken htoken' rounds id wait
  | extend rounds id size wait =>
    exact VolumeClient.twins_extend hpeer c htoken htoken' rounds id size wait
  | retype rounds id typeName wait =>
    exact VolumeClient.twins_retype hpeer c htoken htoken' rounds id typeName wait
  | rename id name => exact VolumeClient.twins_rename hpeer c htoken htoken' id name

theorem NetworkClient.Operation.twins_run (c : NetworkClient)
    (operation : NetworkClient.Operation β) :
    (tokenView same token token').Twins (operation.run (c.withToken token) peer)
      (operation.run (c.withToken token') peer) := by
  cases operation with
  | list filter => exact .ofExcept _
  | pages operation => exact operation.twins_run (c.transports_withToken hpeer htoken htoken')
  | listAll rounds filter => exact c.twins_listAll hpeer htoken htoken' rounds _ _
  | stream filter => exact .ofExcept _
  | next rounds s => exact NetworkClient.twins_next hpeer c htoken htoken' rounds s
  | taken rounds limit s =>
    exact NetworkClient.twins_taken hpeer c htoken htoken' rounds limit s
  | get id => exact c.twins_get hpeer htoken htoken' id
  | create rounds request wait =>
    exact NetworkClient.twins_create hpeer c htoken htoken' rounds request wait
  | delete rounds id wait => exact c.twins_delete hpeer htoken htoken' rounds id wait
  | rename id name => exact NetworkClient.twins_rename hpeer c htoken htoken' id name

/-- **The token has no influence but on its header.** Over a peer that does not look at who sends a
request, whatever is asked of a client comes to the same values and errors under any two tokens that
can be sent, at the same times, with the same requests but for the header of the token. Clients show
alike, and a configuration is written the same, whatever the token. -/
theorem token_tells_nothing :
    (∀ c : Client, (c.withToken token).text = (c.withToken token').text ∧
      ∀ (β : Type) (operation : Client.Operation β),
        (tokenView same token token').Twins (operation.run (c.withToken token) peer)
          (operation.run (c.withToken token') peer)) ∧
    (∀ c : VolumeClient,
      VolumeClient.text (c.withToken token) = VolumeClient.text (c.withToken token') ∧
      ∀ (β : Type) (operation : VolumeClient.Operation β),
        (tokenView same token token').Twins (operation.run (c.withToken token) peer)
          (operation.run (c.withToken token') peer)) ∧
    (∀ c : NetworkClient,
      NetworkClient.text (c.withToken token) = NetworkClient.text (c.withToken token') ∧
      ∀ (β : Type) (operation : NetworkClient.Operation β),
        (tokenView same token token').Twins (operation.run (c.withToken token) peer)
          (operation.run (c.withToken token') peer)) ∧
    ∀ (c : Config) (kept kept' : Option String),
      Config.record.encode { c with token := kept } =
        Config.record.encode { c with token := kept' } :=
  ⟨fun c => ⟨rfl, fun _ operation => operation.twins_run hpeer htoken htoken' c⟩,
    fun c => ⟨rfl, fun _ operation => operation.twins_run hpeer htoken htoken' c⟩,
    fun c => ⟨rfl, fun _ operation => operation.twins_run hpeer htoken htoken' c⟩,
    fun c kept kept' => (c.encode_withToken kept).trans (c.encode_withToken kept').symm⟩

end Tokens

/-- A service that answers in order sees no token. -/
theorem unseeing_inOrder (deliveries : Nat → Delivery) : Unseeing (.inOrder deliveries) Eq where
  delivery states _ := congrArg deliveries states
  next states _ := congrArg (· + 1) states

/-- A volume is made and waited for under one token and under another. -/
theorem token_tells_nothing_of_creation :
    let peer := accepting "\"726ecfcc-7fd0-4e30-a86b-7ed1aa6d8a4b\""
    let volume := CreateVolume.newVolume "data" 10
    let w : World Nat := ⟨0, [], [], 0⟩
    let made (token : String) : Except Halt (Except Error (Outcome Volume) × World Nat) :=
      Session.run (VolumeClient.create (creatingVolumes.withToken token) peer 1 volume
        (some .standard)) w
    Unseeing peer Eq ∧ isHeaderValue (Client.authorization "one") ∧
      isHeaderValue (Client.authorization "two") ∧
      ∃ v now sent sent', v.name = "data" ∧
        sent.map (·.2.headers.lookup "authorization") =
          List.replicate 4 (some "APIKey one") ∧
        List.Forall₂ (fun s s' => s.1 = s'.1 ∧ s.2.Alike "one" "two" s'.2) sent sent' ∧
        made "one" = .ok (.ok (.completed v), ⟨now, [], sent, 4⟩) ∧
        made "two" = .ok (.ok (.completed v), ⟨now, [], sent', 4⟩) := by
  intro peer volume w made
  have hpeer : Unseeing peer Eq := unseeing_inOrder _
  have hone : isHeaderValue (Client.authorization "one") := by decide +kernel
  have htwo : isHeaderValue (Client.authorization "two") := by decide +kernel
  refine ⟨hpeer, hone, htwo, ?_⟩
  have hends : (made "one").map (fun ended =>
      (ended.1.map fun o => o.completed?.map Volume.name,
        ended.2.sent.map (·.2.headers.lookup "authorization"),
        ended.2.alarms.length, ended.2.peer)) =
      .ok (.ok (some "data"), List.replicate 4 (some "APIKey one"), 0, 4) := by decide +kernel
  obtain ⟨⟨outcome, now, alarms, sent, last⟩, hrun, hresult⟩ := exists_of_map_eq_ok hends
  obtain ⟨hdone, hresult⟩ := Prod.mk.inj hresult
  obtain ⟨htokens, hresult⟩ := Prod.mk.inj hresult
  obtain ⟨halarms, rfl⟩ := Prod.mk.inj hresult
  obtain rfl := List.eq_nil_of_length_eq_zero halarms
  obtain ⟨⟨v⟩ | _, rfl, hname⟩ := exists_of_map_eq_ok hdone
  · obtain ⟨-, hvolumes, -⟩ := token_tells_nothing hpeer hone htwo
    have hends : (tokenView Eq "one" "two").Ends (made "one") (made "two") :=
      (hvolumes creatingVolumes).2 _ (.create 1 volume (some .standard)) w w (.same .nil rfl)
    rw [hrun] at hends
    generalize made "two" = ended at hends ⊢
    obtain _ | ⟨⟨hrequests, rfl⟩⟩ := hends
    exact ⟨v, now, sent, _, Option.some.inj hname, htokens, hrequests, hrun, rfl⟩
  · cases hname

end CloudApi
