import CloudApi.Network.Client
import CloudApi.Proofs.Failures
import CloudApi.Volume.Client

/-! Which requests are valid, and what becomes of the others.

What makes a request valid is said without its checks (`CreateVolume.Valid` and the conditions on
names and sizes), and the checks find nothing exactly then. A mutation with findings is refused as
it is: nothing is sent and nothing else happens. One without findings may fail in many ways, but
never with a finding, so that a validation error tells the two apart (`Screened`). -/
namespace CloudApi

open Error (NoFinding)
open Session (FailsWith)

/-! ### Names and sizes -/

/-- A name has 1 to 63 characters. -/
def NameFits (name : String) : Prop :=
  1 ≤ name.toList.length ∧ name.toList.length ≤ 63

/-- A size goes from 1 to 16384 GiB. -/
def SizeFits (size : UInt64) : Prop :=
  1 ≤ size.toNat ∧ size.toNat ≤ 16384

theorem Validation.length_eq_nil_iff {field value : String} {least greatest : Nat} :
    Validation.length field least greatest value = [] ↔
      least ≤ value.length ∧ value.length ≤ greatest := by
  unfold Validation.length
  split <;> simp_all

theorem nameFindings_eq_nil_iff {name : String} : nameFindings name = [] ↔ NameFits name :=
  Validation.length_eq_nil_iff

theorem sizeFindings_eq_nil_iff {size : UInt64} : sizeFindings size = [] ↔ SizeFits size := by
  unfold sizeFindings Validation.range SizeFits
  split <;> simp_all

/-! ### Requests for volumes -/

namespace CreateVolume
variable {r : CreateVolume}

/-- The conditions on single fields. -/
structure FieldsFit (r : CreateVolume) : Prop where
  name : NameFits r.name
  size : ∀ size, r.size = some size → SizeFits size

/-- Size, image and snapshot are what the source asks for. -/
structure SourceFits (r : CreateVolume) : Prop where
  newVolume : r.source = .newVolume → r.size ≠ none ∧ r.image = none ∧ r.snapshot = none
  image : r.source = .image → r.size ≠ none ∧ r.image ≠ none ∧ r.snapshot = none
  /-- A snapshot has a size of its own, but may be given another. -/
  snapshot : r.source = .snapshot → r.snapshot ≠ none ∧ r.image = none

/-- What makes a request for a volume valid. -/
structure Valid (r : CreateVolume) : Prop extends FieldsFit r, SourceFits r

/-- The requests that the constructors and the setters make. -/
inductive Built : CreateVolume → Prop where
  | newVolume (name : String) (size : UInt64) : Built (newVolume name size)
  | fromImage (name : String) (image : ImageId) (size : UInt64) : Built (fromImage name image size)
  | fromSnapshot (name : String) (snapshot : SnapshotId) : Built (fromSnapshot name snapshot)
  | withType {r : CreateVolume} (typeName : VolumeType) : Built r → Built (r.withType typeName)
  | attachingTo {r : CreateVolume} (id : InstanceId) : Built r → Built (r.attachingTo id)
  | withMetadata {r : CreateVolume} (key value : String) :
    Built r → Built (r.withMetadata key value)

theorem fitsSource_iff : r.fitsSource = true ↔ r.SourceFits := by
  unfold fitsSource
  constructor
  · intro hfits
    refine ⟨fun hsource => ?_, fun hsource => ?_, fun hsource => ?_⟩
    all_goals simp_all [Option.isSome_iff_ne_none]
  · rintro ⟨hnew, himage, hsnapshot⟩
    cases hsource : r.source with
    | newVolume => simp_all [Option.isSome_iff_ne_none]
    | image => simp_all [Option.isSome_iff_ne_none]
    | snapshot => simp_all [Option.isSome_iff_ne_none]

/-- What is wrong with the fields on their own. -/
def fieldFindings (r : CreateVolume) : List Validation.Finding :=
  nameFindings r.name ++ (r.size.map sizeFindings).getD []

theorem fieldFindings_eq_nil_iff : r.fieldFindings = [] ↔ r.FieldsFit := by
  unfold fieldFindings
  rw [List.append_eq_nil_iff, nameFindings_eq_nil_iff]
  constructor
  · rintro ⟨hname, hsizes⟩
    refine ⟨hname, fun size hsize => sizeFindings_eq_nil_iff.mp ?_⟩
    rwa [hsize] at hsizes
  · rintro ⟨hname, hsize⟩
    refine ⟨hname, ?_⟩
    cases hsome : r.size with
    | none => rfl
    | some size => exact sizeFindings_eq_nil_iff.mpr (hsize size hsome)

/-- No field on its own is a mismatch. -/
theorem fault_of_mem_fieldFindings :
    ∀ f ∈ r.fieldFindings, f.fault ≠ .sourceMismatch := by
  have hname : ∀ f ∈ nameFindings r.name, f.fault ≠ .sourceMismatch := by
    unfold nameFindings Validation.length
    split <;> simp
  have hsize (size : UInt64) : ∀ f ∈ sizeFindings size, f.fault ≠ .sourceMismatch := by
    unfold sizeFindings Validation.range
    split <;> simp
  refine List.forall_mem_append.mpr ⟨hname, ?_⟩
  cases r.size with
  | none => exact fun _ h => absurd h List.not_mem_nil
  | some size => exact hsize size

/-- Whether a request fits its source is asked only if its fields are as they should be. -/
theorem validate_eq (r : CreateVolume) :
    r.validate = if r.fieldFindings = [] then
      (if r.fitsSource then [] else [⟨[], .sourceMismatch⟩]) else r.fieldFindings := by
  unfold validate fieldFindings
  split
  · next hnone => rw [if_pos hnone]
  · next hsome => rw [if_neg hsome]

/-- **A request is found valid exactly if it is.** -/
theorem validate_eq_nil_iff : r.validate = [] ↔ r.Valid := by
  rw [validate_eq]
  by_cases hfields : r.fieldFindings = []
  · have hfit := fieldFindings_eq_nil_iff.mp hfields
    rw [if_pos hfields]
    by_cases hsource : r.fitsSource = true
    · rw [if_pos hsource]
      exact iff_of_true rfl ⟨hfit, fitsSource_iff.mp hsource⟩
    · rw [if_neg hsource]
      exact iff_of_false (List.cons_ne_nil _ _) fun h => hsource (fitsSource_iff.mpr h.toSourceFits)
  · rw [if_neg hfields]
    exact iff_of_false hfields fun h => hfields (fieldFindings_eq_nil_iff.mpr h.toFieldsFit)

/-- A mismatch is found only where nothing else is wrong, and then it is all that is found. -/
theorem mismatch_iff :
    (∃ f ∈ r.validate, f.fault = .sourceMismatch) ↔ r.FieldsFit ∧ ¬ r.SourceFits := by
  rw [← fitsSource_iff, ← fieldFindings_eq_nil_iff, validate_eq]
  by_cases hfields : r.fieldFindings = []
  · rw [if_pos hfields, and_iff_right hfields]
    split <;> simp_all
  · rw [if_neg hfields]
    refine iff_of_false ?_ fun h => hfields h.1
    rintro ⟨f, hmem, hfault⟩
    exact fault_of_mem_fieldFindings f hmem hfault

/-- The constructors give what the source asks for, and the setters leave it as it is. -/
theorem Built.fitsSource {r : CreateVolume} (h : r.Built) : r.fitsSource = true := by
  induction h with
  | newVolume => rfl
  | fromImage => rfl
  | fromSnapshot => rfl
  | withType _ _ ih => exact ih
  | attachingTo _ _ ih => exact ih
  | withMetadata _ _ _ ih => exact ih

end CreateVolume

/-! ### Operations -/

/-- How an operation goes with a request in which something is found or not. An invalid request is
refused with all that is found before anything else happens, and a validation error tells that it
was, since none comes from a valid one. Alarms around the operation may have any other error. -/
structure Screened {σ β : Type} (valid : Prop) (findings : List Validation.Finding)
    (operation : Session σ β) : Prop where
  found : findings = [] ↔ valid
  refuses : ¬ valid → ∀ w, Session.run operation w =
    .ok (.error (.validation (Validation.summary findings)), w)
  refused_iff : ∀ w, (∀ a ∈ w.alarms, NoFinding a.error) →
    ((∃ reason after, Session.run operation w = .ok (.error (.validation reason), after)) ↔ ¬ valid)

/-- An operation that begins with looking at what was found. -/
theorem Screened.of_findings {σ β : Type} {valid : Prop} {findings : List Validation.Finding}
    {operation : Session σ β} (found : findings = [] ↔ valid)
    (hthrows : findings ≠ [] → ∀ w, Session.run operation w =
      .ok (.error (.validation (Validation.summary findings)), w))
    (hpasses : findings = [] → FailsWith NoFinding operation) :
    Screened valid findings operation where
  found := found
  refuses hinvalid := hthrows (mt found.mp hinvalid)
  refused_iff w halarms := by
    constructor
    · rintro ⟨reason, after, hrun⟩ hvalid
      rcases (hpasses (found.mpr hvalid) w _ after hrun).2 _ rfl with hnone | ⟨a, hmem, herror⟩
      · exact hnone reason rfl
      · exact halarms a hmem reason herror
    · exact fun hinvalid => ⟨_, w, hthrows (mt found.mp hinvalid) w⟩

namespace ResourceClient
variable {kind : IdKind} {α β σ : Type} (c : ResourceClient kind α) (peer : Peer σ) (rounds : Nat)
  {valid : Prop} {findings : List Validation.Finding} (found : findings = [] ↔ valid)

include found

theorem screened_mutate (method : Method) {url : Except Error Url}
    (hurl : ∀ e, url = .error e → NoFinding e) (body : Option Json) (wait : Option WaitOptions)
    {extract : String → Session σ β} (hextract : ∀ task, FailsWith NoFinding (extract task)) :
    Screened valid findings (c.mutate peer rounds findings method url body wait extract) := by
  refine Screened.of_findings found (fun hsome w => ?_) fun hnone => ?_
  · unfold mutate
    rw [if_pos hsome]
    rfl
  · subst hnone
    exact c.failsWith_mutate peer rounds method hurl body wait hextract

theorem screened_change (id : Id kind) (request : Json) :
    Screened valid findings (c.change peer id findings request) := by
  refine Screened.of_findings found (fun hsome w => ?_) fun hnone => ?_
  · unfold change
    rw [if_pos hsome]
    rfl
  · subst hnone
    exact c.failsWith_change peer id request

theorem screened_create (request : Json) (wait : Option WaitOptions) :
    Screened valid findings (c.create peer rounds findings request wait) :=
  c.screened_mutate peer rounds found .post (fun _ h => Endpoint.noFinding_resource h) _ wait
    (c.failsWith_created peer)

theorem screened_act (id : Id kind) (action : String) (request : Json)
    (wait : Option WaitOptions) :
    Screened valid findings (c.act peer rounds id action findings request wait) :=
  c.screened_mutate peer rounds found .post (fun _ h => Endpoint.noFinding_resource h) _ wait
    fun _ => c.failsWith_get peer id

end ResourceClient

/-- **Nothing invalid is sent.** Each operation with a request refuses exactly the invalid ones,
before anything else happens. Whether the fields of a request for a volume fit its source is found
out only where each of them is as it should be, and requests that were built always fit. -/
theorem invalid_not_sent {σ : Type} (peer : Peer σ) (rounds : Nat) (wait : Option WaitOptions) :
    (∀ (c : VolumeClient) (r : CreateVolume),
      Screened r.Valid r.validate (VolumeClient.create c peer rounds r wait)) ∧
    (∀ (c : VolumeClient) (id : VolumeId) (size : UInt64),
      Screened (SizeFits size) (ExtendVolume.validate ⟨size⟩)
        (VolumeClient.extend c peer rounds id size wait)) ∧
    (∀ (c : VolumeClient) (id : VolumeId) (name : String),
      Screened (NameFits name) (RenameVolume.validate ⟨name⟩)
        (VolumeClient.rename c peer id name)) ∧
    (∀ (c : NetworkClient) (r : CreateNetwork),
      Screened (NameFits r.name) r.validate (NetworkClient.create c peer rounds r wait)) ∧
    (∀ (c : NetworkClient) (id : NetworkId) (name : String),
      Screened (NameFits name) (RenameNetwork.validate ⟨name⟩)
        (NetworkClient.rename c peer id name)) ∧
    (∀ r : CreateVolume, (∃ f ∈ r.validate, f.fault = .sourceMismatch) ↔
      r.FieldsFit ∧ ¬ r.SourceFits) ∧
    ∀ r : CreateVolume, r.Built → r.SourceFits ∧ ∀ f ∈ r.validate, f.fault ≠ .sourceMismatch := by
  refine ⟨fun c r => ?_, fun c id size => ?_, fun c id name => ?_, fun c r => ?_,
    fun c id name => ?_, fun r => CreateVolume.mismatch_iff, fun r hbuilt => ?_⟩
  · exact ResourceClient.screened_create c peer rounds CreateVolume.validate_eq_nil_iff _ wait
  · exact ResourceClient.screened_act c peer rounds sizeFindings_eq_nil_iff id "extend" _ wait
  · exact ResourceClient.screened_change c peer nameFindings_eq_nil_iff id _
  · exact ResourceClient.screened_create c peer rounds nameFindings_eq_nil_iff _ wait
  · exact ResourceClient.screened_change c peer nameFindings_eq_nil_iff id _
  · have hfits := CreateVolume.fitsSource_iff.mp hbuilt.fitsSource
    refine ⟨hfits, fun f hmem hfault => ?_⟩
    exact (CreateVolume.mismatch_iff.mp ⟨f, hmem, hfault⟩).2 hfits

/-- A request changed by hand: the mismatch shows once the name is as it should be. -/
example :
    let r := { CreateVolume.newVolume "data" 10 with source := .image }
    r.validate = [⟨[], .sourceMismatch⟩] ∧
      { r with name := "" }.validate = [⟨["name"], .length 1 63 ""⟩] := by
  decide +kernel

end CloudApi
