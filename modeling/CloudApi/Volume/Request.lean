import CloudApi.Query
import CloudApi.Validation
import CloudApi.Volume.Basic

/-! What can be asked for about volumes: creating one, changing one, and listing some. -/
namespace CloudApi

/-- What a new volume is made from. -/
inductive VolumeSource where
  | newVolume | image | snapshot
  deriving DecidableEq

def VolumeSource.name : VolumeSource → String
  | newVolume => "new-volume"
  | image => "image"
  | snapshot => "snapshot"

def VolumeSource.named : Named VolumeSource :=
  ⟨"volume source", [.newVolume, .image, .snapshot], name⟩

structure CreateVolume where
  source : VolumeSource
  name : String
  /-- In GiB; a snapshot has a size of its own. -/
  size : Option UInt64
  typeName : Option VolumeType
  image : Option ImageId
  snapshot : Option SnapshotId
  attachTo : Option InstanceId
  metadata : List (String × String)
  deriving DecidableEq

/-- The names of resources have 1 to 63 characters. -/
def nameFindings (name : String) : List Validation.Finding :=
  Validation.length "name" 1 63 name

/-- The sizes of volumes go from 1 to 16384 GiB. -/
def sizeFindings (size : UInt64) : List Validation.Finding :=
  Validation.range "size" 1 (some 16384) size.toNat

namespace CreateVolume

open Json

def record : Record CreateVolume where
  name := "CreateVolumeRequest"
  shape := [VolumeSource, String, Option UInt64, Option VolumeType, Option ImageId,
    Option SnapshotId, Option InstanceId, List (String × String)]
  fields :=
    .cons (.required "source" VolumeSource.named.decoder VolumeSource.named.encode) <|
    .cons (.required "name" Decoder.string Json.string) <|
    .cons (.optional "size" Decoder.uint64 nat) <|
    .cons (.optional "type_name" VolumeType.named.decoder VolumeType.named.encode) <|
    .cons (.optional "image_id" Id.decoder Id.encode) <|
    .cons (.optional "snapshot_id" Id.decoder Id.encode) <|
    .cons (.optional "instance_id_to_attach_to" Id.decoder Id.encode) <|
    .cons (.texts "metadata" true) .nil
  build := fun (source, name, size, typeName, image, snapshot, attachTo, metadata, ()) =>
    ⟨source, name, size, typeName, image, snapshot, attachTo, metadata⟩
  parts := fun r => (r.source, r.name, r.size, r.typeName, r.image, r.snapshot, r.attachTo,
    r.metadata, ())

def ofSource (source : VolumeSource) (name : String) : CreateVolume :=
  ⟨source, name, none, none, none, none, none, []⟩

/-- An empty volume. -/
def newVolume (name : String) (size : UInt64) : CreateVolume :=
  { ofSource .newVolume name with size := some size }

/-- A copy of an image. -/
def fromImage (name : String) (image : ImageId) (size : UInt64) : CreateVolume :=
  { ofSource .image name with size := some size, image := some image }

/-- A snapshot brought back, in its own size. -/
def fromSnapshot (name : String) (snapshot : SnapshotId) : CreateVolume :=
  { ofSource .snapshot name with snapshot := some snapshot }

def withType (r : CreateVolume) (typeName : VolumeType) : CreateVolume :=
  { r with typeName := some typeName }

/-- To be attached to an instance once it is there. -/
def attachingTo (r : CreateVolume) (id : InstanceId) : CreateVolume :=
  { r with attachTo := some id }

def withMetadata (r : CreateVolume) (key value : String) : CreateVolume :=
  { r with metadata := insertField key value r.metadata }

/-- Whether size, image and snapshot are what the source asks for. -/
def fitsSource (r : CreateVolume) : Bool :=
  match r.source with
  | .newVolume => r.size.isSome && r.image.isNone && r.snapshot.isNone
  | .image => r.size.isSome && r.image.isSome && r.snapshot.isNone
  | .snapshot => r.snapshot.isSome && r.image.isNone

/-- The fields come first; whether they fit the source is asked when nothing else is wrong. -/
def validate (r : CreateVolume) : List Validation.Finding :=
  match nameFindings r.name ++ (r.size.map sizeFindings).getD [] with
  | [] => if r.fitsSource then [] else [⟨[], .sourceMismatch⟩]
  | findings => findings

end CreateVolume

structure ExtendVolume where
  /-- The new size in GiB. -/
  size : UInt64
  deriving DecidableEq

namespace ExtendVolume

open Json

def record : Record ExtendVolume where
  name := "ExtendVolumeRequest"
  shape := [UInt64]
  fields := .cons (.required "size" Decoder.uint64 nat) .nil
  build := fun (size, ()) => ⟨size⟩
  parts := fun r => (r.size, ())

def validate (r : ExtendVolume) : List Validation.Finding :=
  sizeFindings r.size

end ExtendVolume

structure RetypeVolume where
  typeName : VolumeType
  deriving DecidableEq

open Json in
def RetypeVolume.record : Record RetypeVolume where
  name := "RetypeVolumeRequest"
  shape := [VolumeType]
  fields := .cons (.required "volume_type" VolumeType.named.decoder VolumeType.named.encode) .nil
  build := fun (typeName, ()) => ⟨typeName⟩
  parts := fun r => (r.typeName, ())

structure RenameVolume where
  name : String
  deriving DecidableEq

namespace RenameVolume

open Json

def record : Record RenameVolume where
  name := "RenameVolumeRequest"
  shape := [String]
  fields := .cons (.required "name" Decoder.string Json.string) .nil
  build := fun (name, ()) => ⟨name⟩
  parts := fun r => (r.name, ())

def validate (r : RenameVolume) : List Validation.Finding :=
  nameFindings r.name

end RenameVolume

/-- Which volumes to list. -/
structure VolumeFilter where
  instanceId : Option InstanceId
  bootable : Option Bool
  hasAttachments : Option Bool
  namePart : Option String
  metadataKeys : List String
  limit : Option UInt32
  offset : Option UInt32
  deriving DecidableEq

namespace VolumeFilter

open Text

def empty : VolumeFilter :=
  ⟨none, none, none, none, [], none, none⟩

def query (f : VolumeFilter) : Query :=
  let count (n : UInt32) : String := Numeral.decimalText n.toNat
  ((((((Query.empty.pushOption "instance_id" (f.instanceId.map Id.text)).pushOption
    "bootable" (f.bootable.map Query.boolText)).pushOption
    "has_attachments" (f.hasAttachments.map Query.boolText)).pushOption
    "name_part" f.namePart).pushAll
    "metadata_k" f.metadataKeys).pushOption
    "limit" (f.limit.map count)).pushOption
    "offset" (f.offset.map count)

end VolumeFilter

end CloudApi
