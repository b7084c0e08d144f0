import CloudApi.Network.Client
import CloudApi.Proofs.Resource.Lists
import CloudApi.Proofs.Resource.Mutation
import CloudApi.Proofs.Task.Created
import CloudApi.Volume.Client

/-! Creating a resource, from the POST to the resource.

A created resource is found in two steps: the last task is looked at once more, and the resource it
lists first is fetched (`Creation`). A creation is a mutation with this extractor, so that its steps
are known, whatever the peer does (`creates`). It comes to a resource exactly if every step goes
well (`Made`), and to tasks exactly if it is not waited for. -/
namespace CloudApi

namespace ResourceClient
variable {kind : IdKind} {α σ : Type} (c : ResourceClient kind α) (peer : Peer σ)

/-! ### The resource a task created -/

/-- The task is looked at again. -/
abbrev Rereads (id : String) : World σ → List Step → Except Error Task → World σ → Prop :=
  Fetch (c.transport peer) (Endpoint.task c.client.base c.endpoint.version id) Task.record.decode

/-- A resource is fetched. -/
abbrev Gets (id : Id kind) : World σ → List Step → Except Error α → World σ → Prop :=
  Fetch (c.transport peer) (c.url id []) c.decode

/-- How the resource of a task is found: the task is looked at again, and what it lists first is
fetched. -/
inductive Creation (id : String) (w : World σ) : List Step → Except Error α → World σ → Prop where
  /-- The look fails. -/
  | unread {steps : List Step} {e : Error} {after : World σ}
    (rereads : c.Rereads peer id w steps (.error e) after) : Creation id w steps (.error e) after
  /-- The task lists no identifiers. -/
  | unlisted {steps : List Step} {task : Task} {after : World σ}
    (rereads : c.Rereads peer id w steps (.ok task) after)
    (lists : ∀ raw later, ¬ task.Lists c.endpoint.family.createdKey (raw :: later)) :
    Creation id w steps
      (.error (.missingCreatedResource task.id c.endpoint.family.createdKey)) after
  /-- What it lists first is no identifier. -/
  | malformed {steps : List Step} {task : Task} {raw : String} {later : List String}
    {after : World σ} (rereads : c.Rereads peer id w steps (.ok task) after)
    (lists : task.Lists c.endpoint.family.createdKey (raw :: later))
    (noId : ∀ uuid, Uuid.parse raw ≠ .ok uuid) :
    Creation id w steps (.error (.invalidId raw)) after
  /-- What it lists first is fetched. -/
  | fetched {steps more : List Step} {task : Task} {raw : String} {later : List String}
    {uuid : Uuid} {mid after : World σ} {outcome : Except Error α}
    (rereads : c.Rereads peer id w steps (.ok task) mid)
    (lists : task.Lists c.endpoint.family.createdKey (raw :: later))
    (parses : Uuid.parse raw = .ok uuid) (gets : c.Gets peer ⟨uuid⟩ mid more outcome after) :
    Creation id w (steps ++ more) outcome after

variable {c peer}

theorem Rereads.run {id : String} {w after : World σ} {steps : List Step}
    {seen : Except Error Task} (h : c.Rereads peer id w steps seen after) :
    Session.run ((c.waiter peer).getTask id) w = .ok (seen, after) :=
  Fetch.run h

theorem Gets.run {id : Id kind} {w after : World σ} {steps : List Step} {outcome : Except Error α}
    (h : c.Gets peer id w steps outcome after) :
    Session.run (c.get peer id) w = .ok (outcome, after) :=
  Fetch.run h

/-- Once the task was looked at again, all depends on what it lists. -/
theorem Rereads.run_created {id : String} {w mid : World σ} {steps : List Step} {task : Task}
    (h : c.Rereads peer id w steps (.ok task) mid) :
    Session.run (c.created peer id) w =
      match task.firstCreatedId c.endpoint.family.createdKey with
      | .error e => .ok (.error e, mid)
      | .ok raw =>
        match (Id.parse raw : Except Error (Id kind)) with
        | .error e => .ok (.error e, mid)
        | .ok id => Session.run (c.get peer id) mid := by
  unfold created
  rw [Session.run_bind_ok h.run]
  cases task.firstCreatedId c.endpoint.family.createdKey with
  | error e => exact Session.run_bind_error (Session.run_ofExcept _ mid)
  | ok raw =>
    rw [Session.run_bind_ok (Session.run_ofExcept (.ok raw) mid)]
    dsimp only
    cases (Id.parse raw : Except Error (Id kind)) with
    | error e => exact Session.run_bind_error (Session.run_ofExcept _ mid)
    | ok id => exact Session.run_bind_ok (Session.run_ofExcept (.ok id) mid)

theorem Creation.run {id : String} {w after : World σ} {steps : List Step}
    {outcome : Except Error α} (h : c.Creation peer id w steps outcome after) :
    Session.run (c.created peer id) w = .ok (outcome, after) := by
  cases h with
  | unread rereads => exact Session.run_bind_error rereads.run
  | unlisted rereads lists =>
    rw [rereads.run_created, Task.firstCreatedId_of_forall_not lists]
    rfl
  | @malformed _ _ raw _ _ rereads lists noId =>
    have hparse : (Id.parse raw : Except Error (Id kind)) = .error (.invalidId raw) := by
      unfold Id.parse
      split
      · next uuid huuid => exact absurd huuid (noId uuid)
      · rfl
    rw [rereads.run_created, Task.firstCreatedId_of_lists lists]
    dsimp only
    rw [hparse]
  | @fetched _ _ _ raw _ uuid _ _ _ rereads lists parses gets =>
    have hparse : (Id.parse raw : Except Error (Id kind)) = .ok ⟨uuid⟩ := by
      rw [Id.parse, parses]
    rw [rereads.run_created, Task.firstCreatedId_of_lists lists]
    dsimp only
    rw [hparse]
    exact gets.run

variable (c peer) in
theorem exists_creation (id : String) (w : World σ) :
    ∃ steps outcome after, c.Creation peer id w steps outcome after := by
  obtain ⟨steps, seen, mid, rereads⟩ :=
    exists_fetch (Endpoint.task c.client.base c.endpoint.version id) Task.record.decode w
      (c.client.timely peer)
  cases seen with
  | error e => exact ⟨_, _, _, .unread rereads⟩
  | ok task =>
    rcases task.firstCreatedId_cases c.endpoint.family.createdKey with
      ⟨raw, later, lists, -⟩ | ⟨lists, -⟩
    · cases hparse : Uuid.parse raw with
      | error e =>
        exact ⟨_, _, _, .malformed rereads lists fun uuid h => by cases hparse.symm.trans h⟩
      | ok uuid =>
        obtain ⟨more, outcome, after, gets⟩ :=
          exists_fetch (c.url ⟨uuid⟩ []) c.decode mid (c.client.timely peer)
        exact ⟨_, _, _, .fetched rereads lists hparse gets⟩
    · exact ⟨_, _, _, .unlisted rereads lists⟩

/-- The way a created resource is found is known. -/
theorem tells_creation : Tells (c.transport peer) (c.Creation peer) (c.created peer) := by
  have ht : Timely (c.transport peer) := c.client.timely peer
  refine ⟨c.exists_creation peer, Creation.run, ?steps, ?gets⟩
  case steps =>
    intro id w steps outcome after h
    cases h with
    | unread rereads => exact Fetch.steps ht rereads
    | unlisted rereads _ => exact Fetch.steps ht rereads
    | malformed rereads _ _ => exact Fetch.steps ht rereads
    | fetched rereads _ _ gets => exact (Fetch.steps ht rereads).append (Fetch.steps ht gets)
  case gets =>
    intro id w steps outcome after h
    cases h with
    | unread rereads => exact Fetch.gets rereads
    | unlisted rereads _ => exact Fetch.gets rereads
    | malformed rereads _ _ => exact Fetch.gets rereads
    | fetched rereads _ _ gets =>
      exact List.forall_mem_append.mpr ⟨Fetch.gets rereads, Fetch.gets gets⟩

/-- A created resource is found if the task lists one and that one is fetched. -/
theorem creation_ok_iff {id : String} {w after : World σ} {steps : List Step} {a : α} :
    c.Creation peer id w steps (.ok a) after ↔
      ∃ first more task raw later uuid mid, steps = first ++ more ∧
        c.Rereads peer id w first (.ok task) mid ∧
        task.Lists c.endpoint.family.createdKey (raw :: later) ∧ Uuid.parse raw = .ok uuid ∧
        c.Gets peer ⟨uuid⟩ mid more (.ok a) after := by
  constructor
  · intro h
    cases h with
    | fetched rereads lists parses gets =>
      exact ⟨_, _, _, _, _, _, _, rfl, rereads, lists, parses, gets⟩
  · rintro ⟨first, more, task, raw, later, uuid, mid, rfl, rereads, lists, parses, gets⟩
    exact .fetched rereads lists parses gets

/-! ### The whole creation -/

section Whole
variable (c peer) (rounds : Nat) (request : Json) (wait : Option WaitOptions) (w : World σ)

/-- How a creation may go. -/
abbrev Creating : List Step → Except Error (Outcome α) → World σ → Prop :=
  Mutation c peer rounds .post (c.endpoint.collection c.client.base) (some request) wait
    (c.Creation peer) w

/-- All that happens when a resource is created and waited for: the POST is answered with tasks, all
of them but the last one are awaited and seen finished, the last one is awaited and stands, it is
looked at once more, and the resource that it lists first is fetched. -/
inductive Made (options : WaitOptions) : List Step → α → World σ → Prop where
  | intro {home there site : Url} {answer shown body : Json} {passed later : List String}
    {last raw : String} {first looks : List Step} {ended task : Task} {uuid : Uuid} {a : α}
    {begun before settled found after : World σ}
    (here : c.endpoint.collection c.client.base = .ok home)
    (answered : c.Answered peer .post (some request) home w (.ok answer) begun)
    (reads : TaskList.ofBody answer = .ok ⟨passed ++ [last]⟩)
    (finished : Waiter.Finished (c.waiter peer) options rounds passed begun first before)
    (awaited : Waiter.Awaited options (c.waiter peer) rounds last before looks (.ok ended) settled)
    (stands : ended.state = .error → options.throwOnFailure = false)
    (place : Endpoint.task c.client.base c.endpoint.version last = .ok there)
    (looked : Session.run ((c.transport peer).get there) settled = .ok (.ok shown, found))
    (shows : Envelope.whole Task.record.decode shown = .ok task)
    (lists : task.Lists c.endpoint.family.createdKey (raw :: later))
    (parses : Uuid.parse raw = .ok uuid) (locates : c.url ⟨uuid⟩ [] = .ok site)
    (fetched : Session.run ((c.transport peer).get site) found = .ok (.ok body, after))
    (decodes : Envelope.whole c.decode body = .ok a) :
    Made options (⟨.post, home, some request, .ok answer⟩ ::
      (first ++ (looks ++ [.get there (.ok shown), .get site (.ok body)]))) a after

variable {c peer rounds request wait w}

/-- A creation comes to a resource exactly if all that happens. -/
theorem creating_completed_iff {steps : List Step} {a : α} {after : World σ} :
    c.Creating peer rounds request wait w steps (.ok (.completed a)) after ↔
      ∃ options, wait = some options ∧ c.Made peer rounds request w options steps a after := by
  constructor
  · intro h
    generalize houtcome : (Except.ok (.completed a) : Except Error (Outcome α)) = outcome at h
    cases h with
    | nowhere => cases houtcome
    | sendFails => cases houtcome
    | unread => cases houtcome
    | submitted => cases houtcome
    | @settles _ _ tasks options _ _ _ outcome here answered reads waits settling =>
      obtain ⟨ids⟩ := tasks
      cases outcome with
      | error e => cases houtcome
      | ok b =>
        obtain rfl := Outcome.completed.inj (Except.ok.inj houtcome)
        obtain ⟨passed, last, first, looks, _, before, settled, ended, htasks, rfl, finished,
          awaited, stands, finds⟩ := Waiter.settling_ok_iff.mp settling
        obtain rfl : ids = passed ++ [last] := htasks
        obtain ⟨_, _, task, raw, later, uuid, found, rfl, rereads, lists, parses, gets⟩ :=
          creation_ok_iff.mp finds
        obtain ⟨there, shown, place, rfl, looked, shows⟩ := fetch_ok_iff.mp rereads
        obtain ⟨site, body, locates, rfl, fetched, decodes⟩ := fetch_ok_iff.mp gets
        exact ⟨options, waits, .intro here answered reads finished awaited stands place looked shows
          lists parses locates fetched decodes⟩
  · rintro ⟨options, waits, h⟩
    cases h with
    | intro here answered reads finished awaited stands place looked shows lists parses locates
        fetched decodes =>
      have rereads := fetch_ok_iff.mpr ⟨_, _, place, rfl, looked, shows⟩
      have gets := fetch_ok_iff.mpr ⟨_, _, locates, rfl, fetched, decodes⟩
      exact .settles here answered reads waits (Waiter.settling_ok_iff.mpr ⟨_, _, _, _, _, _, _, _,
        rfl, rfl, finished, awaited, stands, .fetched rereads lists parses gets⟩)

/-- A creation comes to tasks exactly if it is not waited for and the POST is answered with them. -/
theorem creating_submitted_iff {steps : List Step} {tasks : TaskList} {after : World σ} :
    c.Creating peer rounds request wait w steps (.ok (.submitted tasks)) after ↔
      wait = none ∧ ∃ home answer, c.endpoint.collection c.client.base = .ok home ∧
        c.Answered peer .post (some request) home w (.ok answer) after ∧
        TaskList.ofBody answer = .ok tasks ∧ steps = [⟨.post, home, some request, .ok answer⟩] := by
  constructor
  · intro h
    generalize houtcome : (Except.ok (.submitted tasks) : Except Error (Outcome α)) = outcome at h
    cases h with
    | nowhere => cases houtcome
    | sendFails => cases houtcome
    | unread => cases houtcome
    | submitted here answered reads handed =>
      obtain rfl := Outcome.submitted.inj (Except.ok.inj houtcome)
      exact ⟨handed, _, _, here, answered, reads, rfl⟩
    | @settles _ _ _ _ _ _ _ outcome =>
      cases outcome with
      | error e => cases houtcome
      | ok b => cases houtcome
  · rintro ⟨handed, home, answer, here, answered, reads, rfl⟩
    exact .submitted here answered reads handed

variable (c peer rounds request wait w) in
/-- What creating a resource from a request comes to. -/
structure Creates (run : Except Halt (Except Error (Outcome α) × World σ)) : Prop where
  /-- It comes to what its steps say and to nothing else. -/
  run_iff : ∀ outcome after, run = .ok (outcome, after) ↔
    ∃ steps, c.Creating peer rounds request wait w steps outcome after
  /-- The log has copies of the request of each step, in order, and the POST once at most. -/
  logged : ∀ steps outcome after, c.Creating peer rounds request wait w steps outcome after →
    ∃ requests, Logged c.client steps requests ∧
      after.sent.map Prod.snd = w.sent.map Prod.snd ++ requests ∧
      requests.countP (·.method = .post) ≤ 1
  completed_iff : ∀ steps a after,
    c.Creating peer rounds request wait w steps (.ok (.completed a)) after ↔
      ∃ options, wait = some options ∧ c.Made peer rounds request w options steps a after
  submitted_iff : ∀ steps tasks after,
    c.Creating peer rounds request wait w steps (.ok (.submitted tasks)) after ↔
      wait = none ∧ ∃ home answer, c.endpoint.collection c.client.base = .ok home ∧
        c.Answered peer .post (some request) home w (.ok answer) after ∧
        TaskList.ofBody answer = .ok tasks ∧ steps = [⟨.post, home, some request, .ok answer⟩]
  /-- It comes to nothing only if one of its waits does. -/
  halts : ∀ why, run = .error why → ∃ home answer tasks options begun,
    c.endpoint.collection c.client.base = .ok home ∧
      c.Answered peer .post (some request) home w (.ok answer) begun ∧
      TaskList.ofBody answer = .ok tasks ∧ wait = some options ∧
      Waiter.Short options rounds (begun.now + tasks.tasks.length * options.timeout.toNanos) why

theorem creates : c.Creates peer rounds request wait w
    (Session.run (c.create peer rounds [] request wait) w) where
  run_iff outcome after := run_mutate_iff tells_creation w after outcome
  logged _ _ _ h := by
    obtain ⟨requests, hlogged, hsent, honce⟩ := Mutation.logged tells_creation h
    exact ⟨requests, hlogged, hsent, honce rfl⟩
  completed_iff _ _ _ := creating_completed_iff
  submitted_iff _ _ _ := creating_submitted_iff
  halts why hwhy := by
    rcases mutation_or_halted rounds .post (c.endpoint.collection c.client.base) (some request)
      wait tells_creation w with ⟨_, _, _, hgoes⟩ | ⟨why', hhalts, hshort⟩
    · cases (hgoes.run tells_creation).symm.trans hwhy
    · obtain rfl := Except.error.inj (hhalts.symm.trans hwhy)
      exact hshort

end Whole

end ResourceClient

/-- **Creating a volume or a network, step by step.** A valid request is sent in one POST that is
not repeated. If it is waited for, the tasks it started are awaited in order, the last one is looked
at once more, and the resource that it lists first is fetched; the first step that fails decides. -/
theorem create_steps {σ : Type} (peer : Peer σ) (rounds : Nat) (wait : Option WaitOptions)
    (w : World σ) :
    (∀ (s : ResourceSetup) (c : VolumeClient) (request : CreateVolume),
      VolumeClient.build s = .ok c → request.validate = [] →
      c.endpoint.family.createdKey = "volumes" ∧
      ResourceClient.Creates c peer rounds (CreateVolume.record.encode request) wait w
        (Session.run (VolumeClient.create c peer rounds request wait) w)) ∧
    ∀ (s : ResourceSetup) (c : NetworkClient) (request : CreateNetwork),
      NetworkClient.build s = .ok c → request.validate = [] →
      c.endpoint.family.createdKey = "networks" ∧
      ResourceClient.Creates c peer rounds (CreateNetwork.record.encode request) wait w
        (Session.run (NetworkClient.create c peer rounds request wait) w) := by
  refine ⟨fun s c request hbuild hvalid => ?volume, fun s c request hbuild hvalid => ?network⟩
  case volume =>
    refine ⟨by rw [ResourceSetup.eq_of_build hbuild]; rfl, ?_⟩
    unfold VolumeClient.create
    rw [hvalid]
    exact ResourceClient.creates
  case network =>
    refine ⟨by rw [ResourceSetup.eq_of_build hbuild]; rfl, ?_⟩
    unfold NetworkClient.create
    rw [hvalid]
    exact ResourceClient.creates

/-! ### A creation that is waited for -/

def creatingSetup : ResourceSetup :=
  ⟨⟨serviceUrl [""], .standard, none, "agent"⟩, "v1", 1, 2, 50, .standard⟩

def creatingVolumes : VolumeClient :=
  ⟨⟨serviceUrl [""], .standard, none, "agent"⟩, ⟨"v1", .volumes, 1, 2⟩, .offset,
    Volume.record.decode, 50, .standard⟩

def creatingNetworks : NetworkClient :=
  ⟨⟨serviceUrl [""], .standard, none, "agent"⟩, ⟨"v1", .networks, 1, 2⟩, .linked,
    Network.record.decode, 50, .standard⟩

/-- A service that finishes a creation at once and lists identifiers of volumes; it has a volume. -/
def accepting (listed : String) : Peer Nat :=
  .inOrder fun n => ⟨1, .answered 200 (String.toUTF8 (match n with
    | 0 => "\x7b\"tasks\":[\"t\"]\x7d"
    | 1 | 2 => "\x7b\"id\":\"t\",\"state\":\"FINISHED\",\"created_resources\":\x7b\"volumes\":[" ++
      listed ++ "]\x7d\x7d"
    | _ => "\x7b\"id\":\"726ecfcc-7fd0-4e30-a86b-7ed1aa6d8a4b\",\"name\":\"data\",\"size\":10," ++
      "\"status\":\"available\",\"volume_type\":\"standard\"\x7d")).toList⟩

/-- A volume is made and fetched after it; a network is not, since the task lists volumes only. -/
theorem create_steps_of_volume :
    let peer := accepting "\"726ecfcc-7fd0-4e30-a86b-7ed1aa6d8a4b\""
    let volume := CreateVolume.newVolume "data" 10
    let network := CreateNetwork.ofName "net"
    let w : World Nat := ⟨0, [], [], 0⟩
    VolumeClient.build creatingSetup = .ok creatingVolumes ∧ volume.validate = [] ∧
      NetworkClient.build creatingSetup = .ok creatingNetworks ∧ network.validate = [] ∧
      (∃ steps v after, v.name = "data" ∧
        after.sent.map (fun (_, r) => r.method) = [.post, .get, .get, .get] ∧
        ResourceClient.Made creatingVolumes peer 1 (CreateVolume.record.encode volume) w .standard
          steps v after) ∧
      ∃ steps after, ResourceClient.Creating creatingNetworks peer 1
        (CreateNetwork.record.encode network) (some .standard) w steps
        (.error (.missingCreatedResource "t" "networks")) after := by
  intro peer volume network w
  have hvolume : volume.validate = [] := by decide +kernel
  have hnetwork : network.validate = [] := by decide +kernel
  obtain ⟨hvolumes, hnetworks⟩ := create_steps peer 1 (some .standard) w
  obtain ⟨-, hcreates⟩ := hvolumes creatingSetup creatingVolumes volume rfl hvolume
  obtain ⟨-, hmissing⟩ := hnetworks creatingSetup creatingNetworks network rfl hnetwork
  refine ⟨rfl, hvolume, rfl, hnetwork, ?made, ?missing⟩
  case made =>
    have hends : ((Session.run (VolumeClient.create creatingVolumes peer 1 volume
        (some .standard)) w).map fun (outcome, after) =>
          (outcome.map fun o => o.completed?.map Volume.name,
            after.sent.map fun (_, r) => r.method)) =
        .ok (.ok (some "data"), [.post, .get, .get, .get]) := by decide +kernel
    obtain ⟨⟨outcome, after⟩, hrun, hresult⟩ := exists_of_map_eq_ok hends
    obtain ⟨hdone, hmethods⟩ := Prod.mk.inj hresult
    obtain ⟨⟨v⟩ | _, rfl, hname⟩ := exists_of_map_eq_ok hdone
    · obtain ⟨steps, hcreating⟩ := (hcreates.run_iff _ _).mp hrun
      obtain ⟨_, hwaits, hmade⟩ := (hcreates.completed_iff _ _ _).mp hcreating
      cases hwaits
      exact ⟨steps, v, after, Option.some.inj hname, hmethods, hmade⟩
    · cases hname
  case missing =>
    have hends : ((Session.run (NetworkClient.create creatingNetworks peer 1 network
        (some .standard)) w).map fun (outcome, _) => outcome.map Outcome.completed?) =
        .ok (.error (.missingCreatedResource "t" "networks")) := by decide +kernel
    obtain ⟨⟨e | _, after⟩, hrun, hresult⟩ := exists_of_map_eq_ok hends
    · obtain rfl := Except.error.inj hresult
      obtain ⟨steps, hcreating⟩ := (hmissing.run_iff _ _).mp hrun
      exact ⟨steps, after, hcreating⟩
    · cases hresult

/-- A list of a task that holds anything but strings counts as none: the volume whose identifier
comes first in it is not fetched. -/
theorem create_skips_mixed_list :
    let id := "726ecfcc-7fd0-4e30-a86b-7ed1aa6d8a4b"
    let peer := accepting "\"726ecfcc-7fd0-4e30-a86b-7ed1aa6d8a4b\",5"
    let volume := CreateVolume.newVolume "data" 10
    VolumeClient.build creatingSetup = .ok creatingVolumes ∧ volume.validate = [] ∧
      (Uuid.parse id).isOk ∧
      ((Session.run ((creatingVolumes.waiter peer).getTask "t") ⟨0, [], [], 1⟩).map
        fun (seen, _) => seen.map fun task : Task => (task.state, task.created? "volumes")) =
          .ok (.ok (TaskState.finished, some (.array [.string id, .number (.natural 5)]))) ∧
      ((Session.run (VolumeClient.create creatingVolumes peer 1 volume (some .standard))
        ⟨0, [], [], 0⟩).map fun (outcome, after) =>
          (outcome.map Outcome.completed?, after.sent.map fun (_, r) => r.method)) =
        .ok (.error (.missingCreatedResource "t" "volumes"), [.post, .get, .get]) := by
  refine ⟨rfl, ?_, ?_, ?_, ?_⟩
  all_goals decide +kernel

end CloudApi
