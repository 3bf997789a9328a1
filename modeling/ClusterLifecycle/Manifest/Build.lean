import ClusterLifecycle.Manifest.AddOn
import ClusterLifecycle.Manifest.Machines

/-!
The manifest of each kind of object, or the reason why a cluster's record does not give one.
-/

namespace ClusterLifecycle

namespace Manifest

open ResourceKind

/-- The addresses of services. -/
def serviceCidr : String := "10.254.0.0/16"

def openStackCluster (target : ObjectRef) (c : Cluster) : Manifest where
  target
  labels := labelled [(clusterNameLabel, c.uuid.toString)]
  content := [
    ("spec", .object [
      ("cloudName", "default"),
      ("identityRef", identityReference c),
      ("managedSecurityGroups", true),
      ("nodeCidr", c.template.fixedSubnetCidr),
      ("dnsNameservers", .array [c.template.dnsNameserver]),
      ("externalNetworkId", c.template.externalNetwork),
      ("apiServerLoadBalancer", .object [("enabled", true)])])]

/-- The cluster itself; its control plane is the one of the given master group. -/
def cluster (target : ObjectRef) (c : Cluster) (master : NodeGroup) : Manifest where
  target
  labels := labelled [(clusterUuidLabel, c.uuid.toString)]
  content := [
    ("spec", .object [
      ("clusterNetwork", .object [
        ("serviceDomain", "cluster.local"),
        ("pods", .object [("cidrBlocks", .array [podCidr])]),
        ("services", .object [("cidrBlocks", .array [serviceCidr])])]),
      ("controlPlaneRef", reference ResourceKind.controlPlane (groupObjectName c master)),
      ("infrastructureRef", reference ResourceKind.openStackCluster c.uuid.toString)])]

end Manifest

/-- What manifests are made from beside the cluster's record. -/
structure Deployment where
  /-- The namespace of all objects. -/
  scope : String
  identity : Identity
deriving DecidableEq, Repr

namespace Deployment

def target (d : Deployment) (k : ResourceKind) (c : Cluster) (g : Option NodeGroup) :
    Result ObjectRef :=
  k.ref d.scope c g

/-- A part of a cluster that is needed and not there. -/
def lacking {α : Type} (c : Cluster) (what : String) : Option α → Result α
  | some a => .ok a
  | none => .error (.malformed ("cluster " ++ c.uuid.toString) what)

def grouped (k : ResourceKind) : Option NodeGroup → Result NodeGroup
  | some g => .ok g
  | none => .error (.malformed k.kind "a node group is required")

def authority (target : ObjectRef) (c : Cluster) (purpose : String) (pair : Option KeyPair) :
    Result Manifest :=
  (lacking c ("no " ++ purpose ++ " certificate authority material") pair).map
    (Manifest.authoritySecret target c)

/-- The manifest of an object. Only the cloud configuration asks for a credential. -/
def manifest (d : Deployment) (k : ResourceKind) (c : Cluster) (g : Option NodeGroup)
    (credential : Option Credential) : Result Manifest := do
  let target ← d.target k c g
  match k with
  | .sharedNamespace => return { target, labels := Manifest.labelled [], content := [] }
  | .controllerManagerConfig => return Manifest.controllerManagerConfig target c
  | .controllerManagerResourceSet =>
    return Manifest.resourceSet target (← d.target .controllerManagerConfig c none) c
  | .cniConfig => return Manifest.cniConfig target c
  | .cniResourceSet => return Manifest.resourceSet target (← d.target .cniConfig c none) c
  | .cloudConfigSecret =>
    match credential with
    | some credential => return Manifest.cloudConfigSecret d.identity target c credential
    | none => throw (.malformed "CloudConfigSecret"
        "an application credential is required to render the cloud config")
  | .apiAuthority => authority target c "api" c.authorities.api
  | .etcdAuthority => authority target c "etcd" c.authorities.etcd
  | .frontProxyAuthority => authority target c "front-proxy" c.authorities.frontProxy
  | .serviceAccountAuthority => authority target c "service-account" c.authorities.serviceAccount
  | .machineTemplate => return Manifest.machineTemplate target c (← grouped k g)
  | .controlPlane => return Manifest.controlPlane target c (← grouped k g)
  | .workerTemplate => return Manifest.workerTemplate target c
  | .machineDeployment => return Manifest.machineDeployment target c (← grouped k g)
  | .openStackCluster => return Manifest.openStackCluster target c
  | .cluster =>
    return Manifest.cluster target c (← lacking c "no master node group declared" c.masters.head?)

end Deployment

end ClusterLifecycle
