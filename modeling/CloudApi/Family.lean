import CloudApi.Named

/-! The families of resources the service offers. -/
namespace CloudApi

inductive Family where
  | volumes | networks | subnets | instances | loadBalancers | securityGroups | fileShares
  | gpuClusters | snapshots
  deriving DecidableEq

namespace Family

def all : List Family :=
  [volumes, networks, subnets, instances, loadBalancers, securityGroups, fileShares, gpuClusters,
    snapshots]

/-- The segment of a URL that names the family. -/
def name : Family → String
  | volumes => "volumes"
  | networks => "networks"
  | subnets => "subnets"
  | instances => "instances"
  | loadBalancers => "loadbalancers"
  | securityGroups => "securitygroups"
  | fileShares => "file_shares"
  | gpuClusters => "gpu_clusters"
  | snapshots => "snapshots"

/-- What messages call the family. -/
def variant : Family → String
  | volumes => "Volumes"
  | networks => "Networks"
  | subnets => "Subnets"
  | instances => "Instances"
  | loadBalancers => "LoadBalancers"
  | securityGroups => "SecurityGroups"
  | fileShares => "FileShares"
  | gpuClusters => "GpuClusters"
  | snapshots => "Snapshots"

/-- The key under which a finished task lists what it created. -/
def createdKey (f : Family) : String :=
  f.name

/-- The name in JSON, with its words apart. -/
def jsonName : Family → String
  | loadBalancers => "load_balancers"
  | securityGroups => "security_groups"
  | f => f.name

def named : Named Family :=
  ⟨"resource family", all, name⟩

def decoder : Json.Decoder Family :=
  .name (all.map fun f => (f.jsonName, f))

def encode (f : Family) : Json :=
  .string f.jsonName

end Family

end CloudApi
