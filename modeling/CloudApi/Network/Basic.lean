import CloudApi.Id
import CloudApi.Named
import CloudApi.Timestamp.Field

/-! Private networks as the service describes them. -/
namespace CloudApi

/-- The way a network is kept apart from others. -/
inductive NetworkType where
  | vlan | vxlan
  deriving DecidableEq

def NetworkType.name : NetworkType → String
  | vlan => "vlan"
  | vxlan => "vxlan"

def NetworkType.named : Named NetworkType :=
  ⟨"network type", [.vlan, .vxlan], name⟩

structure Network where
  id : NetworkId
  name : String
  typeName : Option String
  mtu : Option UInt32
  segmentationId : Option UInt32
  /-- Whether the network leads to the public internet. -/
  external : Bool
  default : Bool
  shared : Bool
  subnets : List SubnetId
  metadata : List (String × String)
  project : Option UInt64
  region : Option UInt64
  regionName : Option String
  createdAt : Option Timestamp
  updatedAt : Option Timestamp
  deriving DecidableEq

namespace Network

open Json

def record : Record Network where
  name := "Network"
  shape := [NetworkId, String, Option String, Option UInt32, Option UInt32, Bool, Bool, Bool,
    List SubnetId, List (String × String), Option UInt64, Option UInt64, Option String,
    Option Timestamp, Option Timestamp]
  fields :=
    .cons (.required "id" Id.decoder Id.encode) <|
    .cons (.required "name" Decoder.string Json.string) <|
    .cons (.optional "type" Decoder.string Json.string) <|
    .cons (.optional "mtu" Decoder.uint32 fun n => nat n.toUInt64) <|
    .cons (.optional "segmentation_id" Decoder.uint32 fun n => nat n.toUInt64) <|
    .cons (.withDefault "external" false Decoder.bool Json.bool) <|
    .cons (.withDefault "default" false Decoder.bool Json.bool) <|
    .cons (.withDefault "shared" false Decoder.bool Json.bool) <|
    .cons (.withDefault "subnets" [] (Decoder.list Id.decoder)
      fun ids => .array (ids.map Id.encode)) <|
    .cons (.texts "metadata" false) <|
    .cons (.optional "project_id" Decoder.uint64 nat) <|
    .cons (.optional "region_id" Decoder.uint64 nat) <|
    .cons (.optional "region" Decoder.string Json.string) <|
    .cons (Timestamp.field "created_at") <|
    .cons (Timestamp.field "updated_at") .nil
  build := fun (id, name, typeName, mtu, segmentationId, external, default, shared, subnets,
      metadata, project, region, regionName, createdAt, updatedAt, ()) =>
    ⟨id, name, typeName, mtu, segmentationId, external, default, shared, subnets, metadata,
      project, region, regionName, createdAt, updatedAt⟩
  parts := fun n => (n.id, n.name, n.typeName, n.mtu, n.segmentationId, n.external, n.default,
    n.shared, n.subnets, n.metadata, n.project, n.region, n.regionName, n.createdAt, n.updatedAt,
    ())

/-- The type, if it is a known one. -/
def kind (n : Network) : Option NetworkType :=
  n.typeName.bind fun name => (NetworkType.named.parse name).toOption

end Network

end CloudApi
