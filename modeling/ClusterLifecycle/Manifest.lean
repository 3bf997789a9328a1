import ClusterLifecycle.Json
import ClusterLifecycle.Resource

/-!
Manifests: an object as it is handed to the management cluster.
-/

namespace ClusterLifecycle

structure Manifest where
  target : ObjectRef
  labels : Labels
  /-- The fields beside those that every object has. -/
  content : List (String × Json)

namespace Manifest

def clusterNameLabel : String := "cluster.x-k8s.io/cluster-name"
def clusterUuidLabel : String := "magnum.openstack.org/cluster-uuid"
def nodeGroupLabel : String := "magnum.openstack.org/nodegroup"
def managedByLabel : String := "app.kubernetes.io/managed-by"
def managedBy : String := "capi-driver"

/-- The body of the object. A content field takes the place of a common one of its name. -/
def toJson (m : Manifest) : Json :=
  let labels := m.labels.entries.map fun (key, value) => (key, Json.string value)
  let scope := m.target.scope.toList.map fun scope => ("namespace", Json.string scope)
  let common : Json := .object [
    ("apiVersion", m.target.apiVersion),
    ("kind", m.target.kind),
    ("metadata", .object ([("name", .string m.target.name), ("labels", .object labels)] ++ scope))]
  m.content.foldl (fun body (name, value) => body.set name value) common

/-- Labels on top of the one that every object carries. -/
def labelled (more : List (String × String)) : Labels :=
  Labels.ofList ((managedByLabel, managedBy) :: more)

/-- Where an object is, as others refer to it. -/
def reference (k : ResourceKind) (name : String) : Json :=
  .object [("apiVersion", k.apiVersion), ("kind", k.kind), ("name", name)]

/-- Refers to the secret with the cloud configuration. -/
def identityReference (c : Cluster) : Json :=
  .object [("name", ResourceKind.cloudConfigName c), ("kind", "Secret")]

end Manifest

end ClusterLifecycle
