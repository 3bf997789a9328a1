import ClusterLifecycle.Manifest.Build
import ClusterLifecycle.Observation
import ClusterLifecycle.Services

/-!
The objects of a cluster by their kinds: applying, deleting and fetching them.
-/

namespace ClusterLifecycle.Deployment

open Operation

/-- Nothing is asked for where the record gives no manifest. -/
def apply (d : Deployment) (k : ResourceKind) (c : Cluster) (g : Option NodeGroup := none)
    (credential : Option Credential := none) : Operation Unit := do
  applyObject (← d.manifest k c g credential)

def delete (d : Deployment) (k : ResourceKind) (c : Cluster) (g : Option NodeGroup := none) :
    Operation Unit := do
  deleteObject (← d.target k c g)

def fetch (d : Deployment) (k : ResourceKind) (c : Cluster) (g : Option NodeGroup := none) :
    Operation ObservedObject := do
  let target ← d.target k c g
  return ⟨target, ← getObject target⟩

def isPresent (d : Deployment) (k : ResourceKind) (c : Cluster) : Operation Bool := do
  return (← orAbsent (d.fetch k c)).isSome

end ClusterLifecycle.Deployment
