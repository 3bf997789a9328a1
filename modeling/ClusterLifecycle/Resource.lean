import ClusterLifecycle.Cluster
import ClusterLifecycle.Text.Lowercase

/-!
The objects of the management cluster that make up a cluster: their kinds, names and references.
-/

namespace ClusterLifecycle

/-- What identifies an object. -/
structure ObjectRef where
  apiVersion : String
  kind : String
  name : String
  /-- The namespace it lives in; objects without one are cluster-scoped. -/
  scope : Option String
deriving DecidableEq, Repr

namespace ObjectRef

protected def toString (r : ObjectRef) : String :=
  match r.scope with
  | some scope => r.kind ++ "/" ++ r.name ++ " (" ++ scope ++ ")"
  | none => r.kind ++ "/" ++ r.name

instance : ToString ObjectRef := ⟨ObjectRef.toString⟩

/-- Group and version; the core group has no name. -/
def groupVersion (r : ObjectRef) : String × String :=
  match Text.splitAtFirst '/' r.apiVersion.toList with
  | some (group, version) => (String.ofList group, String.ofList version)
  | none => ("", r.apiVersion)

/-- The name of the resource that objects of this kind belong to. -/
def plural (r : ObjectRef) : String := Text.lowercase r.kind ++ "s"

end ObjectRef

inductive ResourceKind where
  | sharedNamespace
  | controllerManagerConfig
  | controllerManagerResourceSet
  | cniConfig
  | cniResourceSet
  | cloudConfigSecret
  | apiAuthority
  | etcdAuthority
  | frontProxyAuthority
  | serviceAccountAuthority
  | machineTemplate
  | controlPlane
  | workerTemplate
  | machineDeployment
  | cluster
  | openStackCluster
deriving DecidableEq, Repr

namespace ResourceKind

/-- The secrets that hold the certificate authorities. -/
def authorities : List ResourceKind :=
  [apiAuthority, etcdAuthority, frontProxyAuthority, serviceAccountAuthority]

def apiVersion : ResourceKind → String
  | sharedNamespace | controllerManagerConfig | cniConfig | cloudConfigSecret | apiAuthority
  | etcdAuthority | frontProxyAuthority | serviceAccountAuthority => "v1"
  | controllerManagerResourceSet | cniResourceSet => "addons.cluster.x-k8s.io/v1beta1"
  | machineTemplate | openStackCluster => "infrastructure.cluster.x-k8s.io/v1alpha5"
  | controlPlane => "controlplane.cluster.x-k8s.io/v1beta1"
  | workerTemplate => "bootstrap.cluster.x-k8s.io/v1beta1"
  | machineDeployment | cluster => "cluster.x-k8s.io/v1beta1"

/-- The kind of object. -/
def kind : ResourceKind → String
  | sharedNamespace => "Namespace"
  | controllerManagerConfig | cniConfig => "ConfigMap"
  | controllerManagerResourceSet | cniResourceSet => "ClusterResourceSet"
  | cloudConfigSecret | apiAuthority | etcdAuthority | frontProxyAuthority
  | serviceAccountAuthority => "Secret"
  | machineTemplate => "OpenStackMachineTemplate"
  | controlPlane => "KubeadmControlPlane"
  | workerTemplate => "KubeadmConfigTemplate"
  | machineDeployment => "MachineDeployment"
  | cluster => "Cluster"
  | openStackCluster => "OpenStackCluster"

/-- The name that a group's machine template, control plane and deployment share. -/
def groupObjectName (c : Cluster) (g : NodeGroup) : String := c.uuid.toString ++ "-" ++ g.name

def cloudConfigName (c : Cluster) : String := c.uuid.toString ++ "-cloud-config"

/-- The name of the object in its namespace; a node group names those that belong to one. -/
def objectName (k : ResourceKind) (scope : String) (c : Cluster) (g : Option NodeGroup) :
    Result String :=
  let named (suffix : String) := .ok (c.uuid.toString ++ suffix)
  match k with
  | sharedNamespace => .ok scope
  | controllerManagerConfig | controllerManagerResourceSet => named "-cloud-controller-manager"
  | cniConfig | cniResourceSet => named ("-" ++ c.template.networkDriver.toString)
  | cloudConfigSecret => .ok (cloudConfigName c)
  | apiAuthority => named "-ca"
  | etcdAuthority => named "-etcd"
  | frontProxyAuthority => named "-proxy"
  | serviceAccountAuthority => named "-sa"
  | machineTemplate | controlPlane | machineDeployment =>
    match g with
    | some g => .ok (groupObjectName c g)
    | none =>
      .error (.malformed k.kind ("a node group is required to name " ++ k.kind))
  | workerTemplate | cluster | openStackCluster => named ""

/-- The object of this kind for a cluster, or for one of its node groups. -/
def ref (k : ResourceKind) (scope : String) (c : Cluster) (g : Option NodeGroup) :
    Result ObjectRef :=
  (k.objectName scope c g).map fun name =>
    { apiVersion := k.apiVersion, kind := k.kind, name
      scope := if k = sharedNamespace then none else some scope }

end ResourceKind

end ClusterLifecycle
