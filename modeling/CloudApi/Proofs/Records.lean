import CloudApi.Config
import CloudApi.Network.Request
import CloudApi.Proofs.Envelope
import CloudApi.Proofs.Json.ReadBack
import CloudApi.Proofs.Named
import CloudApi.Proofs.Timestamp.Field
import CloudApi.Proofs.Uuid
import CloudApi.Volume.Request

/-! Resources, requests and configurations are decoded from what they are encoded as.

Every field reads back what it writes: whatever is written for identifiers, names, numbers and texts
is read again, a map if its entries are in order, a time if its year has four digits. A decoded
resource has its maps in order, so that it is read back if its times are (`Volume.decode_encode`,
`Network.decode_encode`); a request is read back with its metadata put in order, and a configuration
without its token. -/
namespace CloudApi

open Json

/-! ### Identifiers and names -/

theorem Id.decoder_undoes {kind : IdKind} :
    Decoder.Undoes (Id.decoder : Decoder (Id kind)) Id.encode := by
  refine fun id => ⟨nofun, ?_⟩
  unfold Id.decoder Id.encode Id.text Decoder.spelled
  dsimp only
  rw [Uuid.parse_text]
  rfl

theorem VolumeType.decoder_undoes : VolumeType.named.decoder.Undoes VolumeType.named.encode :=
  Decoder.undoes_named named_plain.complete named_plain.distinct

theorem VolumeSource.decoder_undoes :
    VolumeSource.named.decoder.Undoes VolumeSource.named.encode :=
  Decoder.undoes_named named_plain.complete named_plain.distinct

theorem NetworkType.decoder_undoes : NetworkType.named.decoder.Undoes NetworkType.named.encode :=
  Decoder.undoes_named named_plain.complete named_plain.distinct

/-! ### Volumes -/

namespace Attachment

theorem keys_nodup : record.fields.keys.Nodup := by decide

theorem decode_encode {a : Attachment}
    (hyear : ∀ t, a.attachedAt = some t → 0 ≤ t.date.year ∧ t.date.year ≤ 9999) :
    record.decode (record.encode a) = .ok a := by
  have hrow : record.fields.ReadsBack (record.parts a) :=
    ⟨Field.readsBack_of_undoes Id.decoder_undoes _ a.server,
      Field.readsBack_of_undoes Decoder.undoes_string _ a.attachment,
      Field.readsBack_of_undoes Decoder.undoes_string _ a.device,
      Timestamp.readsBack_of_year hyear, trivial⟩
  exact record.decode_encode_of_parts keys_nodup rfl hrow

end Attachment

namespace Volume

def times (v : Volume) : List Timestamp :=
  v.createdAt.toList ++ v.updatedAt.toList ++ v.attachments.flatMap fun a => a.attachedAt.toList

theorem keys_nodup : record.fields.keys.Nodup := by decide

/-- **A volume is decoded from its own JSON**, if its metadata are in order and all its times have a
year of four digits at most. -/
theorem decode_encode {v : Volume} (hmetadata : Ordered v.metadata)
    (hyears : ∀ t ∈ v.times, 0 ≤ t.date.year ∧ t.date.year ≤ 9999) :
    record.decode (record.encode v) = .ok v := by
  have hattachments : ∀ a ∈ v.attachments,
      Attachment.record.decode (Attachment.record.encode a) = .ok a := fun a ha =>
    Attachment.decode_encode fun t ht => hyears t (by
      simp only [times, List.mem_append, List.mem_flatMap]
      exact .inr ⟨a, ha, by rw [ht]; exact List.mem_singleton_self t⟩)
  have hcreated : ∀ t, v.createdAt = some t → 0 ≤ t.date.year ∧ t.date.year ≤ 9999 :=
    fun t ht => hyears t (by simp [times, ht])
  have hupdated : ∀ t, v.updatedAt = some t → 0 ≤ t.date.year ∧ t.date.year ≤ 9999 :=
    fun t ht => hyears t (by simp [times, ht])
  have hrow : record.fields.ReadsBack (record.parts v) :=
    ⟨(Id.decoder_undoes v.id).2, rfl, rfl, rfl, rfl, rfl, Decoder.list_map hattachments,
      Field.readsBack_of_undoes Decoder.undoes_uint64 _ v.project,
      Field.readsBack_of_undoes Decoder.undoes_uint64 _ v.region,
      Field.readsBack_of_undoes Decoder.undoes_string _ v.regionName,
      Decoder.list_map fun id _ => (Id.decoder_undoes id).2, Field.readsBack_texts hmetadata,
      Timestamp.readsBack_of_year hcreated, Timestamp.readsBack_of_year hupdated, trivial⟩
  exact record.decode_encode_of_parts keys_nodup rfl hrow

theorem ordered_of_decode {body : Json} {v : Volume} (h : record.decode body = .ok v) :
    Ordered v.metadata := by
  obtain ⟨row, hreads, rfl⟩ := record.reads_of_decode h
  obtain ⟨_, _, _, _, _, _, _, _, _, _, _, metadata, _, _, ⟨⟩⟩ := row
  obtain ⟨-, -, -, -, -, -, -, -, -, -, -, hmetadata, -⟩ := hreads
  exact Field.ordered_of_reads_texts hmetadata

end Volume

namespace CreateVolume

theorem keys_nodup : record.fields.keys.Nodup := by decide

/-- The keys of a request, each with whether there is something to write under it. -/
def given (r : CreateVolume) : List (String × Bool) :=
  [("source", true), ("name", true), ("size", r.size.isSome), ("type_name", r.typeName.isSome),
    ("image_id", r.image.isSome), ("snapshot_id", r.snapshot.isSome),
    ("instance_id_to_attach_to", r.attachTo.isSome), ("metadata", !r.metadata.isEmpty)]

/-- What is absent is left out, and so are metadata without entries. -/
theorem isSome_get?_encode (r : CreateVolume) (key : String) :
    ((record.encode r).get? key).isSome ↔ (key, true) ∈ r.given := by
  have hgiven : record.fields.given (record.parts r) = r.given := by
    simp only [given, record, Fields.given, Field.required, Field.optional, Field.texts,
      Option.isSome_map, Option.isSome_some, Bool.true_and, apply_ite Option.isSome,
      Option.isSome_none]
    cases r.metadata.isEmpty <;> rfl
  rw [← hgiven]
  exact record.isSome_get?_encode keys_nodup r key

theorem encode_sorted (r : CreateVolume) :
    record.encode { r with metadata := sortFields r.metadata } = record.encode r := by
  simp only [Record.encode, record, Fields.encode, Field.encode_texts_sortFields]

/-- **A request for a volume is read back**, its metadata in order. -/
theorem decode_encode (r : CreateVolume) :
    record.decode (record.encode r) = .ok { r with metadata := sortFields r.metadata } := by
  have hrow : record.fields.ReadsBack
      (record.parts { r with metadata := sortFields r.metadata }) :=
    ⟨(VolumeSource.decoder_undoes r.source).2, rfl,
      Field.readsBack_of_undoes Decoder.undoes_uint64 _ r.size,
      Field.readsBack_of_undoes VolumeType.decoder_undoes _ r.typeName,
      Field.readsBack_of_undoes Id.decoder_undoes _ r.image,
      Field.readsBack_of_undoes Id.decoder_undoes _ r.snapshot,
      Field.readsBack_of_undoes Id.decoder_undoes _ r.attachTo,
      Field.readsBack_texts (ordered_sortFields r.metadata), trivial⟩
  rw [← encode_sorted]
  exact record.decode_encode_of_parts keys_nodup rfl hrow

end CreateVolume

/-! ### Networks -/

namespace Network

def times (n : Network) : List Timestamp :=
  n.createdAt.toList ++ n.updatedAt.toList

theorem keys_nodup : record.fields.keys.Nodup := by decide

/-- **A network is decoded from its own JSON**, if its metadata are in order and its times have a
year of four digits at most. -/
theorem decode_encode {n : Network} (hmetadata : Ordered n.metadata)
    (hyears : ∀ t ∈ n.times, 0 ≤ t.date.year ∧ t.date.year ≤ 9999) :
    record.decode (record.encode n) = .ok n := by
  have hcreated : ∀ t, n.createdAt = some t → 0 ≤ t.date.year ∧ t.date.year ≤ 9999 :=
    fun t ht => hyears t (by simp [times, ht])
  have hupdated : ∀ t, n.updatedAt = some t → 0 ≤ t.date.year ∧ t.date.year ≤ 9999 :=
    fun t ht => hyears t (by simp [times, ht])
  have hrow : record.fields.ReadsBack (record.parts n) :=
    ⟨(Id.decoder_undoes n.id).2, rfl,
      Field.readsBack_of_undoes Decoder.undoes_string _ n.typeName,
      Field.readsBack_of_undoes Decoder.undoes_uint32 _ n.mtu,
      Field.readsBack_of_undoes Decoder.undoes_uint32 _ n.segmentationId, rfl, rfl, rfl,
      Decoder.list_map fun id _ => (Id.decoder_undoes id).2, Field.readsBack_texts hmetadata,
      Field.readsBack_of_undoes Decoder.undoes_uint64 _ n.project,
      Field.readsBack_of_undoes Decoder.undoes_uint64 _ n.region,
      Field.readsBack_of_undoes Decoder.undoes_string _ n.regionName,
      Timestamp.readsBack_of_year hcreated, Timestamp.readsBack_of_year hupdated, trivial⟩
  exact record.decode_encode_of_parts keys_nodup rfl hrow

theorem ordered_of_decode {body : Json} {n : Network} (h : record.decode body = .ok n) :
    Ordered n.metadata := by
  obtain ⟨row, hreads, rfl⟩ := record.reads_of_decode h
  obtain ⟨_, _, _, _, _, _, _, _, _, metadata, _, _, _, _, _, ⟨⟩⟩ := row
  obtain ⟨-, -, -, -, -, -, -, -, -, hmetadata, -⟩ := hreads
  exact Field.ordered_of_reads_texts hmetadata

end Network

namespace CreateNetwork

theorem keys_nodup : record.fields.keys.Nodup := by decide

/-- The keys of a request, each with whether there is something to write under it. -/
def given (r : CreateNetwork) : List (String × Bool) :=
  [("name", true), ("type", true), ("create_router", true), ("metadata", !r.metadata.isEmpty)]

/-- Metadata without entries are left out. -/
theorem isSome_get?_encode (r : CreateNetwork) (key : String) :
    ((record.encode r).get? key).isSome ↔ (key, true) ∈ r.given := by
  have hgiven : record.fields.given (record.parts r) = r.given := by
    simp only [given, record, Fields.given, Field.required, Field.texts, Option.isSome_some,
      Bool.true_and, apply_ite Option.isSome, Option.isSome_none]
    cases r.metadata.isEmpty <;> rfl
  rw [← hgiven]
  exact record.isSome_get?_encode keys_nodup r key

theorem encode_sorted (r : CreateNetwork) :
    record.encode { r with metadata := sortFields r.metadata } = record.encode r := by
  simp only [Record.encode, record, Fields.encode, Field.encode_texts_sortFields]

/-- **A request for a network is read back**, its metadata in order. -/
theorem decode_encode (r : CreateNetwork) :
    record.decode (record.encode r) = .ok { r with metadata := sortFields r.metadata } := by
  have hrow : record.fields.ReadsBack
      (record.parts { r with metadata := sortFields r.metadata }) :=
    ⟨rfl, (NetworkType.decoder_undoes r.typeName).2, rfl,
      Field.readsBack_texts (ordered_sortFields r.metadata), trivial⟩
  rw [← encode_sorted]
  exact record.decode_encode_of_parts keys_nodup rfl hrow

end CreateNetwork

/-! ### Configurations -/

theorem WaitDefaults.decode_encode (d : WaitDefaults) :
    record.decode (record.encode d) = .ok d := by
  have hrow : record.fields.ReadsBack (record.parts d) := ⟨rfl, rfl, rfl, trivial⟩
  exact record.decode_encode_of_parts (by decide) rfl hrow

theorem PageDefaults.decode_encode (d : PageDefaults) :
    record.decode (record.encode d) = .ok d := by
  have hrow : record.fields.ReadsBack (record.parts d) :=
    ⟨(Decoder.undoes_uint32 d.limit).2, trivial⟩
  exact record.decode_encode_of_parts (by decide) rfl hrow

namespace Config

theorem keys_nodup : record.fields.keys.Nodup := by decide

/-- The token is not written. -/
theorem encode_withToken (c : Config) (token : Option String) :
    record.encode { c with token } = record.encode c := rfl

/-- **A configuration is read back**, without its token. -/
theorem decode_encode (c : Config) :
    record.decode (record.encode c) = .ok { c with token := none } := by
  have hrow : record.fields.ReadsBack (record.parts { c with token := none }) :=
    ⟨rfl, rfl, rfl, rfl, rfl, rfl, (Decoder.undoes_uint32 c.maxRetries).2,
      WaitDefaults.decode_encode c.wait, PageDefaults.decode_encode c.paging, trivial⟩
  rw [← encode_withToken c none]
  exact record.decode_encode_of_parts keys_nodup rfl hrow

end Config

/-! ### All of them -/

/-- **What is written is read back.** A resource that was decoded from any JSON is decoded from its
own, if all its times have a year of four digits at most. A request comes back with its metadata as a
map and with the same faults, and leaves out what is absent; a configuration comes back without its
token and with the same faults. -/
theorem decode_encode_records :
    (∀ body v, Envelope.whole Volume.record.decode body = .ok v →
      (∀ t ∈ v.times, 0 ≤ t.date.year ∧ t.date.year ≤ 9999) →
      Envelope.whole Volume.record.decode (Volume.record.encode v) = .ok v) ∧
    (∀ body n, Envelope.whole Network.record.decode body = .ok n →
      (∀ t ∈ n.times, 0 ≤ t.date.year ∧ t.date.year ≤ 9999) →
      Envelope.whole Network.record.decode (Network.record.encode n) = .ok n) ∧
    (∀ r : CreateVolume, ∃ back,
      CreateVolume.record.decode (CreateVolume.record.encode r) = .ok back ∧
      back = { r with metadata := sortFields r.metadata } ∧ (Ordered r.metadata → back = r) ∧
      back.validate = r.validate ∧
      ∀ key, ((CreateVolume.record.encode r).get? key).isSome ↔ (key, true) ∈ r.given) ∧
    (∀ r : CreateNetwork, ∃ back,
      CreateNetwork.record.decode (CreateNetwork.record.encode r) = .ok back ∧
      back = { r with metadata := sortFields r.metadata } ∧ (Ordered r.metadata → back = r) ∧
      back.validate = r.validate ∧
      ∀ key, ((CreateNetwork.record.encode r).get? key).isSome ↔ (key, true) ∈ r.given) ∧
    ∀ c : Config, ∃ back, Config.record.decode (Config.record.encode c) = .ok back ∧
      back = { c with token := none } ∧ (back.validate = [] ↔ c.validate = []) := by
  refine ⟨fun body v h hyears => ?_, fun body n h hyears => ?_, fun r => ?_, fun r => ?_,
    fun c => ⟨_, c.decode_encode, rfl, Iff.rfl⟩⟩
  · have hmetadata := Volume.ordered_of_decode (Envelope.explain_eq_ok.mp h)
    exact Envelope.explain_eq_ok.mpr (Volume.decode_encode hmetadata hyears)
  · have hmetadata := Network.ordered_of_decode (Envelope.explain_eq_ok.mp h)
    exact Envelope.explain_eq_ok.mpr (Network.decode_encode hmetadata hyears)
  · refine ⟨_, r.decode_encode, rfl, fun hordered => ?_, rfl, r.isSome_get?_encode⟩
    rw [sortFields_eq_self hordered]
  · refine ⟨_, r.decode_encode, rfl, fun hordered => ?_, rfl, r.isSome_get?_encode⟩
    rw [sortFields_eq_self hordered]

/-- A volume of a type of no name, identifiers in three spellings, an attachment as an array, and
metadata with an empty key. -/
def oddVolumeBody : Json :=
  .object [
    ("attachments", .array [.array [.string "urn:uuid:0C5BA4F8-1C2E-4A0B-9D7B-52B1D3B0C111", .null,
      .string "/dev/vdb", .string "0000-01-01 00:00:60.25"]]),
    ("created_at", .null), ("extra", .array []),
    ("id", .string "\x7b0c5ba4f8-1c2e-4a0b-9d7b-52b1d3b0c111\x7d"),
    ("metadata", .object [("", .string "none"), ("b", .string "\x00")]), ("name", .string ""),
    ("size", nat 0xFFFFFFFFFFFFFFFF),
    ("snapshot_ids", .array [.string "0c5ba4f81c2e4a0b9d7b52b1d3b0c111"]), ("status", .string "new"),
    ("volume_type", .string "quantum")]

/-- The volume is read with all its oddities and read back; so is a network that leaves out all it
may, and an empty request. -/
theorem decode_encode_of_odd :
    (∃ v, Envelope.whole Volume.record.decode oddVolumeBody = .ok v ∧ v.kind = none ∧
      v.id.text = "0c5ba4f8-1c2e-4a0b-9d7b-52b1d3b0c111" ∧
      v.times.map Timestamp.text = ["0000-01-01T00:00:60.250Z"] ∧
      Envelope.whole Volume.record.decode (Volume.record.encode v) = .ok v) ∧
    (∃ n, Envelope.whole Network.record.decode (.object
        [("id", .string "0c5ba4f81c2e4a0b9d7b52b1d3b0c111"), ("name", .string "n"),
          ("type", .string "geneve")]) = .ok n ∧
      Envelope.whole Network.record.decode (Network.record.encode n) = .ok n) ∧
    CreateNetwork.record.decode (CreateNetwork.record.encode (.ofName "")) = .ok (.ofName "") ∧
    ((CreateNetwork.record.encode (.ofName "")).get? "metadata").isSome = false := by
  obtain ⟨hvolume, hnetwork, -, hcreate, -⟩ := decode_encode_records
  let uuid : Uuid := ⟨[0, 12, 5, 11, 10, 4, 15, 8, 1, 12, 2, 14, 4, 10, 0, 11, 9, 13, 7, 11, 5, 2, 11,
    1, 13, 3, 11, 0, 12, 1, 1, 1], by decide⟩
  let v : Volume := ⟨⟨uuid⟩, "", 0xFFFFFFFFFFFFFFFF, "new", "quantum", false, [⟨some ⟨uuid⟩, none,
    some "/dev/vdb", some ⟨⟨0, 1, 1, by decide⟩, 0, 60, 250000000⟩⟩], none, none, none, [⟨uuid⟩],
    [("", "none"), ("b", "\x00")], none, none⟩
  let n : Network := ⟨⟨uuid⟩, "n", some "geneve", none, none, false, false, false, [], [], none, none,
    none, none, none⟩
  have hv : Envelope.whole Volume.record.decode oddVolumeBody = .ok v := by decide +kernel
  have hn : Envelope.whole Network.record.decode (.object
      [("id", .string "0c5ba4f81c2e4a0b9d7b52b1d3b0c111"), ("name", .string "n"),
        ("type", .string "geneve")]) = .ok n := by decide +kernel
  obtain ⟨back, hback, -, hsame, -, hgiven⟩ := hcreate (.ofName "")
  rw [hsame List.Pairwise.nil] at hback
  refine ⟨⟨v, hv, by decide +kernel, by decide +kernel, by decide +kernel,
    hvolume _ _ hv (by decide)⟩, ⟨n, hn, hnetwork _ _ hn (by decide)⟩, hback, ?_⟩
  rw [← Bool.not_eq_true, hgiven]
  decide

end CloudApi
