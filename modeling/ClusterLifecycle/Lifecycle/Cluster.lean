import ClusterLifecycle.Credential.Issue
import ClusterLifecycle.Lifecycle.NodeGroup

/-!
Clusters: applying all their objects, and asking for their deletion. Every operation may be repeated
after a failure.
-/

namespace ClusterLifecycle.Deployment

/-- The secret that carries the credential. One that exists keeps the credential it has. -/
def applyCloudConfig (d : Deployment) (c : Cluster) : Operation Unit := do
  unless ← d.isPresent .cloudConfigSecret c do
    let credential ← Credential.issue c.userId c.uuid
    d.apply .cloudConfigSecret c none credential

/-- Provisions groups in order, the shared template with the first group of workers only. -/
def provisionAll (d : Deployment) (c : Cluster) (sharedTemplate : Bool) :
    List NodeGroup → Operation Unit
  | [] => return
  | g :: rest => do
    d.provision c g (sharedTemplate && !g.isMaster)
    d.provisionAll c (sharedTemplate && g.isMaster) rest

/-- Applies what others refer to before what refers to it. -/
def createCluster (d : Deployment) (c : Cluster) : Operation Unit := do
  d.apply .sharedNamespace c
  d.apply .controllerManagerConfig c
  d.apply .controllerManagerResourceSet c
  if c.template.networkDriver.requiresAddon then
    d.apply .cniConfig c
    d.apply .cniResourceSet c
  d.applyCloudConfig c
  ResourceKind.authorities.forM fun k => d.apply k c
  d.provisionAll c true c.nodeGroups
  d.apply .openStackCluster c
  d.apply .cluster c

/-- The secrets stay until the cluster is gone. -/
def deleteCluster (d : Deployment) (c : Cluster) : Operation Unit := do
  d.delete .cluster c
  d.delete .openStackCluster c
  c.nodeGroups.forM fun g => d.deleteNodeGroup c g

end ClusterLifecycle.Deployment

namespace ClusterLifecycle

/-- Operations on clusters, groups and federations that are not done. -/
inductive UnsupportedOperation where
  | updateCluster | resizeCluster | upgradeCluster
  | createFederation | updateFederation | deleteFederation
  | updateNodeGroup
deriving DecidableEq, Repr

namespace UnsupportedOperation

protected def toString : UnsupportedOperation → String
  | updateCluster => "update_cluster"
  | resizeCluster => "resize_cluster"
  | upgradeCluster => "upgrade_cluster"
  | createFederation => "create_federation"
  | updateFederation => "update_federation"
  | deleteFederation => "delete_federation"
  | updateNodeGroup => "update_nodegroup"

instance : ToString UnsupportedOperation := ⟨UnsupportedOperation.toString⟩

def run (op : UnsupportedOperation) : Operation Unit := throw (.unsupported op.toString)

end UnsupportedOperation

/-- A platform that clusters are made for. -/
structure Capability where
  serverType : String
  os : String
  coe : String
deriving DecidableEq, Repr

def capabilities : List Capability := [⟨"vm", "ubuntu-focal", "kubernetes"⟩]

end ClusterLifecycle
