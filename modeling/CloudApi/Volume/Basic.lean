import CloudApi.Id
import CloudApi.Named
import CloudApi.Timestamp.Field

/-! Block-storage volumes as the service describes them. -/
namespace CloudApi

/-- The storage class of a volume. -/
inductive VolumeType where
  | standard | ssdHiIops | ssdLowLatency | cold | ultra
  deriving DecidableEq

def VolumeType.name : VolumeType → String
  | standard => "standard"
  | ssdHiIops => "ssd_hiiops"
  | ssdLowLatency => "ssd_lowlatency"
  | cold => "cold"
  | ultra => "ultra"

def VolumeType.named : Named VolumeType :=
  ⟨"volume type", [.standard, .ssdHiIops, .ssdLowLatency, .cold, .ultra], name⟩

/-- How a volume is attached to an instance. -/
structure Attachment where
  server : Option InstanceId
  attachment : Option String
  device : Option String
  attachedAt : Option Timestamp
  deriving DecidableEq

open Json in
def Attachment.record : Record Attachment where
  name := "VolumeAttachment"
  shape := [Option InstanceId, Option String, Option String, Option Timestamp]
  fields :=
    .cons (.optional "server_id" Id.decoder Id.encode) <|
    .cons (.optional "attachment_id" Decoder.string Json.string) <|
    .cons (.optional "device" Decoder.string Json.string) <|
    .cons (Timestamp.field "attached_at") .nil
  build := fun (server, attachment, device, attachedAt, ()) =>
    ⟨server, attachment, device, attachedAt⟩
  parts := fun a => (a.server, a.attachment, a.device, a.attachedAt, ())

structure Volume where
  id : VolumeId
  name : String
  /-- In GiB. -/
  size : UInt64
  status : String
  typeName : String
  bootable : Bool
  attachments : List Attachment
  project : Option UInt64
  region : Option UInt64
  regionName : Option String
  snapshots : List SnapshotId
  metadata : List (String × String)
  createdAt : Option Timestamp
  updatedAt : Option Timestamp
  deriving DecidableEq

namespace Volume

open Json

def record : Record Volume where
  name := "Volume"
  shape := [VolumeId, String, UInt64, String, String, Bool, List Attachment, Option UInt64,
    Option UInt64, Option String, List SnapshotId, List (String × String), Option Timestamp,
    Option Timestamp]
  fields :=
    .cons (.required "id" Id.decoder Id.encode) <|
    .cons (.required "name" Decoder.string Json.string) <|
    .cons (.required "size" Decoder.uint64 nat) <|
    .cons (.required "status" Decoder.string Json.string) <|
    .cons (.required "volume_type" Decoder.string Json.string) <|
    .cons (.withDefault "bootable" false Decoder.bool Json.bool) <|
    .cons (.withDefault "attachments" [] (Decoder.list Attachment.record.decode)
      fun as => .array (as.map Attachment.record.encode)) <|
    .cons (.optional "project_id" Decoder.uint64 nat) <|
    .cons (.optional "region_id" Decoder.uint64 nat) <|
    .cons (.optional "region" Decoder.string Json.string) <|
    .cons (.withDefault "snapshot_ids" [] (Decoder.list Id.decoder)
      fun ids => .array (ids.map Id.encode)) <|
    .cons (.texts "metadata" false) <|
    .cons (Timestamp.field "created_at") <|
    .cons (Timestamp.field "updated_at") .nil
  build := fun (id, name, size, status, typeName, bootable, attachments, project, region,
      regionName, snapshots, metadata, createdAt, updatedAt, ()) =>
    ⟨id, name, size, status, typeName, bootable, attachments, project, region, regionName,
      snapshots, metadata, createdAt, updatedAt⟩
  parts := fun v => (v.id, v.name, v.size, v.status, v.typeName, v.bootable, v.attachments,
    v.project, v.region, v.regionName, v.snapshots, v.metadata, v.createdAt, v.updatedAt, ())

/-- The storage class, if it is a known one. -/
def kind (v : Volume) : Option VolumeType :=
  (VolumeType.named.parse v.typeName).toOption

def isAttached (v : Volume) : Bool :=
  !v.attachments.isEmpty

end Volume

end CloudApi
