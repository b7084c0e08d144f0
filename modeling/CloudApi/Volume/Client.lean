import CloudApi.Resource
import CloudApi.Volume.Request

/-! Clients of volumes. Their lists go by offsets. -/
namespace CloudApi

abbrev VolumeClient := ResourceClient .volume Volume

namespace VolumeClient

def userAgent : String := "stratus-volumes/0.1.0"

def setup (c : Config) : Except Error ResourceSetup :=
  ResourceSetup.ofConfig userAgent c

def setupOf (url : String) (project region : UInt64) : Except Error ResourceSetup :=
  ResourceSetup.ofScope userAgent url project region

def build (s : ResourceSetup) : Except Error VolumeClient :=
  s.build .volumes .offset Volume.record.decode

variable {σ : Type} (c : VolumeClient) (peer : Peer σ)

/-- How a client shows in messages. -/
def text : String :=
  ResourceClient.text c "VolumesClient"

/-- The volumes of a filter, page by page. -/
def list (filter : VolumeFilter) : Except Error Pager :=
  ResourceClient.list c filter.limit.isSome filter.query

def listAll (rounds : Nat) (filter : VolumeFilter) : Session σ (List Volume) :=
  ResourceClient.listAll c peer rounds filter.limit.isSome filter.query

def create (rounds : Nat) (request : CreateVolume) (wait : Option WaitOptions) :
    Session σ (Outcome Volume) :=
  ResourceClient.create c peer rounds request.validate (CreateVolume.record.encode request) wait

/-- Makes a volume larger. -/
def extend (rounds : Nat) (id : VolumeId) (size : UInt64) (wait : Option WaitOptions) :
    Session σ (Outcome Volume) :=
  let request : ExtendVolume := ⟨size⟩
  ResourceClient.act c peer rounds id "extend" request.validate
    (ExtendVolume.record.encode request) wait

/-- Changes the storage class of a volume. -/
def retype (rounds : Nat) (id : VolumeId) (typeName : VolumeType) (wait : Option WaitOptions) :
    Session σ (Outcome Volume) :=
  ResourceClient.act c peer rounds id "retype" [] (RetypeVolume.record.encode ⟨typeName⟩) wait

def rename (id : VolumeId) (name : String) : Session σ Volume :=
  let request : RenameVolume := ⟨name⟩
  ResourceClient.change c peer id request.validate (RenameVolume.record.encode request)

end VolumeClient

end CloudApi
