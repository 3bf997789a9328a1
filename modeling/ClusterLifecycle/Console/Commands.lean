import ClusterLifecycle.Console
import ClusterLifecycle.Lifecycle.StatusPass

/-!
The commands of an operator, as errands on the record of one cluster.
-/

namespace ClusterLifecycle

/-- The record of a cluster that is about to be created. -/
def Cluster.started (c : Cluster) : Cluster :=
  { c with
    status := .createInProgress
    nodeGroups := c.nodeGroups.map ({ · with status := .createInProgress }) }

/-- What an errand leaves of a record when a pass over it succeeds. -/
def Errand.pass (p : Pass Unit) (c : Cluster) : Errand Cluster :=
  ExceptT.mk do
    match ← Errand.service (p.run.run c) with
    | (.ok (), c) => return .ok c
    | (.error e, _) => return .error (.error e)

namespace Errand

def sayGroup (g : NodeGroup) : Errand Unit :=
  let reason := match g.statusReason with
    | some reason => " - " ++ reason
    | none => ""
  say ("    - " ++ g.name ++ " (" ++ g.role.toString ++ ", " ++ toString g.nodeCount.toNat ++
    " nodes): " ++ g.status.toString ++ reason)

def sayCluster (c : Cluster) : Errand Unit := do
  say ("Cluster: " ++ c.name ++ " (" ++ c.uuid.toString ++ ")")
  say ("  Status: " ++ c.status.toString)
  if let some reason := c.statusReason then say ("  Reason: " ++ reason)
  say ("  API address: " ++ c.apiAddress.getD "N/A")
  say ("  Kubernetes version: " ++ c.coeVersion.getD "N/A")
  say "  Node groups:"
  c.nodeGroups.forM sayGroup

/-- The record of a cluster goes once the cluster is gone. -/
def forgetDeleted (c : Cluster) : Errand Unit := do
  if c.status = .deleteComplete then
    forget c.uuid
    say ("Removed record for deleted cluster " ++ c.uuid.toString)

/-- Looks for the group where the record names one. -/
def group (c : Cluster) (name : String) : Errand NodeGroup :=
  match c.nodeGroup? name with
  | some g => return g
  | none => throw (.groupMissing name c.name)

/-- The record is kept before any object is applied. -/
def create (d : Deployment) (c : Cluster) : Errand Unit := do
  let c := c.started
  Operation.saveCluster c
  d.createCluster c
  say "✓ Cluster resources applied"
  say ""
  say "Track progress with:"
  say ("  capi-driver watch " ++ c.uuid.toString)

/-- The record is marked once the deletion has been asked for. -/
def delete (d : Deployment) (id : Uuid) : Errand Unit := do
  let c ← load id
  say ("Deleting cluster: " ++ c.name ++ " (" ++ c.uuid.toString ++ ")")
  d.deleteCluster c
  Operation.saveCluster { c with status := .deleteInProgress }
  say "✓ Deletion started"
  say ("  capi-driver watch " ++ c.uuid.toString)

/-- One pass over the cluster. -/
def status (d : Deployment) (id : Uuid) : Errand Unit := do
  let c ← pass d.updateClusterStatus (← load id)
  sayCluster c
  forgetDeleted c

/-- Passes over the cluster, of which the times are in seconds, until it settles. -/
def watch (d : Deployment) (id : Uuid) (timeout interval : Nat) : Errand Unit := do
  let polling : Polling :=
    { timeout := timeout * 1000, interval := interval * 1000
      description := "Waiting for cluster " ++ id.toString ++ " to settle" }
  let c ← poll polling do
    let c ← pass d.updateClusterStatus (← load id)
    say ("  " ++ c.status.toString ++ " (" ++ c.name ++ ")")
    return if c.status.isTerminal then some c else none
  sayCluster c
  forgetDeleted c

def createGroup (d : Deployment) (id : Uuid) (g : NodeGroup) : Errand Unit := do
  let c ← load id
  if (c.nodeGroup? g.name).isSome then throw (.groupExists g.name c.name)
  let c ← pass (d.addNodeGroup g) c
  say ("✓ Node group " ++ g.name ++ " provisioning started")
  say ("  Cluster status: " ++ c.status.toString)

/-- Every group of the name leaves the record; the objects of the first one are deleted. -/
def deleteGroup (d : Deployment) (id : Uuid) (name : String) : Errand Unit := do
  let c ← load id
  d.deleteNodeGroup c (← group c name)
  Operation.saveCluster { c with nodeGroups := c.nodeGroups.filter (·.name ≠ name) }
  say ("✓ Node group " ++ name ++ " deleted")

def groupStatus (d : Deployment) (id : Uuid) (name : String) : Errand Unit := do
  let c ← load id
  sayGroup (← d.updateNodeGroupStatus c (← group c name))

end Errand

end ClusterLifecycle
