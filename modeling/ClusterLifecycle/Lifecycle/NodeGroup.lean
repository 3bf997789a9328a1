import ClusterLifecycle.Lifecycle.Objects

/-!
Node groups: provisioning and deleting their objects, and reading their status off them.
-/

namespace ClusterLifecycle

/-- Operations on a record in hand: what has been changed in it stays changed when one fails. -/
abbrev Pass := ExceptT Error (StateT Cluster (Program services))

instance : MonadLift Operation Pass where
  monadLift op := ExceptT.mk (StateT.lift op.run)

namespace Deployment

open Operation

/-- Applies the objects of a group. The template that all worker groups share is applied on
request. -/
def provision (d : Deployment) (c : Cluster) (g : NodeGroup) (sharedTemplate : Bool) :
    Operation Unit := do
  d.apply .machineTemplate c g
  match g.role with
  | .master => d.apply .controlPlane c g
  | .worker =>
    if sharedTemplate then d.apply .workerTemplate c
    d.apply .machineDeployment c g

def createNodeGroup (d : Deployment) (c : Cluster) (g : NodeGroup) : Operation Unit :=
  d.provision c g true

def deleteNodeGroup (d : Deployment) (c : Cluster) (g : NodeGroup) : Operation Unit := do
  match g.role with
  | .master => d.delete .controlPlane c g
  | .worker =>
    d.delete .machineDeployment c g
    d.delete .workerTemplate c
  d.delete .machineTemplate c g

/-- Declares a group in the record, and then provisions it. A cluster that had settled is being
updated again. -/
def addNodeGroup (d : Deployment) (g : NodeGroup) : Pass Unit := do
  let c ← get
  if c.status.action = .delete then
    throw (.unsupported "create_nodegroup on a deleted cluster")
  let c := { c with
    status := if c.status.isTerminal then .updateInProgress else c.status
    nodeGroups := c.nodeGroups ++ [g] }
  set c
  saveCluster c
  d.createNodeGroup c g

end Deployment

namespace NodeGroup

/-- The group after a look at its control plane, whose failure message becomes its reason. -/
def afterControlPlane (g : NodeGroup) (o : ControlPlaneObservation) : NodeGroup :=
  { g with
    status := if o.ready then g.status.withPhase .complete else g.status
    statusReason := o.failureMessage }

/-- The group after a look at its deployment. -/
def afterDeployment (g : NodeGroup) (o : DeploymentObservation) : NodeGroup :=
  { g with status := (o.phase.status? g.status).getD g.status }

end NodeGroup

namespace Deployment

open Operation

/-- A group with the status that its object shows. -/
def observeNodeGroup (d : Deployment) (c : Cluster) (g : NodeGroup) : Operation NodeGroup := do
  match g.role with
  | .master => return g.afterControlPlane (← ControlPlaneObservation.decode (← d.fetch .controlPlane c g))
  | .worker =>
    return g.afterDeployment (← DeploymentObservation.decode (← d.fetch .machineDeployment c g))

/-- Brings the status of a group up to date, in its record too. -/
def updateNodeGroupStatus (d : Deployment) (c : Cluster) (g : NodeGroup) : Operation NodeGroup := do
  let g ← d.observeNodeGroup c g
  saveNodeGroup c.uuid g
  return g

end Deployment

end ClusterLifecycle
