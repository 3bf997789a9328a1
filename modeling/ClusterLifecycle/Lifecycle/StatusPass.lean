import ClusterLifecycle.Lifecycle.Cluster

/-!
Status passes: one look at the objects of a cluster that moves its record on. A pass that finds the
cluster unsettled leaves the rest to a later one.
-/

namespace ClusterLifecycle.Deployment

open Operation

/-- Brings groups up to date in order, up to the first that is not complete; whether all are. `done`
holds the groups before them. -/
def settleGroups (d : Deployment) (done : List NodeGroup) : List NodeGroup → Pass Bool
  | [] => return true
  | g :: rest => do
    let g ← d.updateNodeGroupStatus (← get) g
    modify fun c => { c with nodeGroups := done ++ g :: rest }
    if g.status.isComplete then d.settleGroups (done ++ [g]) rest else return false

/-- The version that the last of the control planes runs; each has to report one. -/
def runningVersion (d : Deployment) (c : Cluster) : Operation (Option String) :=
  c.masters.foldlM (fun (_ : Option String) (g : NodeGroup) => do
    let o ← ControlPlaneObservation.decode (← d.fetch .controlPlane c g)
    return some (← o.runningVersion)) none

/-- Nothing of the cluster itself is changed before all of it has settled. -/
def provisioningPass (d : Deployment) : Pass Unit := do
  let c ← get
  let o ← ClusterObservation.decode (← d.fetch .cluster c)
  if o.controlPlaneReady then
    let address ← o.apiAddress
    if ← d.settleGroups [] c.nodeGroups then
      let c ← get
      let version ← d.runningVersion c
      let c := { c with
        apiAddress := some address
        coeVersion := version.or c.coeVersion
        status := c.status.withPhase .complete }
      set c
      saveCluster c

/-- The credential and the secrets go only once the cluster is gone, so that it keeps its access to
the cloud until then. -/
def teardownPass (d : Deployment) : Pass Unit := do
  let c ← get
  unless ← d.isPresent .cluster c do
    Credential.revoke c.userId c.uuid
    (ResourceKind.cloudConfigSecret :: ResourceKind.authorities).forM fun k =>
      (d.delete k c : Pass Unit)
    let c := { c with status := c.status.withPhase .complete }
    set c
    saveCluster c

/-- A cluster that has settled is left alone. -/
def updateClusterStatus (d : Deployment) : Pass Unit := do
  let c ← get
  if c.status.phase = .inProgress then
    match c.status.action with
    | .create | .update => d.provisioningPass
    | .delete => d.teardownPass

end ClusterLifecycle.Deployment
