import CloudApi.Network.Basic
import CloudApi.Query
import CloudApi.Validation

/-! What can be asked for about networks: creating one, renaming one, and listing some. -/
namespace CloudApi

structure CreateNetwork where
  name : String
  typeName : NetworkType
  /-- Whether a router comes with the network, in a task of its own. -/
  createRouter : Bool
  metadata : List (String × String)
  deriving DecidableEq

namespace CreateNetwork

open Json

def record : Record CreateNetwork where
  name := "CreateNetworkRequest"
  shape := [String, NetworkType, Bool, List (String × String)]
  fields :=
    .cons (.required "name" Decoder.string Json.string) <|
    .cons (.required "type" NetworkType.named.decoder NetworkType.named.encode) <|
    .cons (.required "create_router" Decoder.bool Json.bool) <|
    .cons (.texts "metadata" true) .nil
  build := fun (name, typeName, createRouter, metadata, ()) =>
    ⟨name, typeName, createRouter, metadata⟩
  parts := fun r => (r.name, r.typeName, r.createRouter, r.metadata, ())

/-- A network with a router. -/
def ofName (name : String) : CreateNetwork :=
  ⟨name, .vxlan, true, []⟩

def withMetadata (r : CreateNetwork) (key value : String) : CreateNetwork :=
  { r with metadata := insertField key value r.metadata }

/-- The name has 1 to 63 characters. -/
def validate (r : CreateNetwork) : List Validation.Finding :=
  Validation.length "name" 1 63 r.name

end CreateNetwork

structure RenameNetwork where
  name : String
  deriving DecidableEq

namespace RenameNetwork

open Json

def record : Record RenameNetwork where
  name := "RenameNetworkRequest"
  shape := [String]
  fields := .cons (.required "name" Decoder.string Json.string) .nil
  build := fun (name, ()) => ⟨name⟩
  parts := fun r => (r.name, ())

/-- The name has 1 to 63 characters. -/
def validate (r : RenameNetwork) : List Validation.Finding :=
  Validation.length "name" 1 63 r.name

end RenameNetwork

/-- Which networks to list, and in which order. -/
structure NetworkFilter where
  metadataKeys : List String
  orderBy : Option String
  limit : Option UInt32
  deriving DecidableEq

namespace NetworkFilter

open Text

def empty : NetworkFilter :=
  ⟨[], none, none⟩

def query (f : NetworkFilter) : Query :=
  ((Query.empty.pushAll "metadata_k" f.metadataKeys).pushOption "order_by" f.orderBy).pushOption
    "limit" (f.limit.map fun n => Numeral.decimalText n.toNat)

end NetworkFilter

end CloudApi
