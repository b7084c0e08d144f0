import CloudApi.Error
import CloudApi.Json.Decode
import CloudApi.Uuid

/-! Identifiers of resources: one type of identifier for each kind of resource, so that none is
taken for another. -/
namespace CloudApi

inductive IdKind where
  | volume | network | subnet | computeInstance | loadBalancer | securityGroup | fileShare
  | gpuCluster | snapshot | image
  deriving DecidableEq

structure Id (kind : IdKind) where
  uuid : Uuid
  deriving DecidableEq

abbrev VolumeId := Id .volume
abbrev NetworkId := Id .network
abbrev SubnetId := Id .subnet
abbrev InstanceId := Id .computeInstance
abbrev SnapshotId := Id .snapshot
abbrev ImageId := Id .image

namespace Id
variable {kind : IdKind}

def parse (s : String) : Except Error (Id kind) :=
  match Uuid.parse s with
  | .ok u => .ok ⟨u⟩
  | .error _ => .error (.invalidId s)

def text (id : Id kind) : String :=
  id.uuid.text

def decoder : Json.Decoder (Id kind) :=
  .spelled (fun s => (Uuid.parse s).map Id.mk) (fun _ e => "UUID parsing failed: " ++ e.message)
    "a formatted UUID string"

def encode (id : Id kind) : Json :=
  .string id.text

end Id

end CloudApi
