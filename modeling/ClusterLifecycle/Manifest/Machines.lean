import ClusterLifecycle.Manifest.CloudConfig

/-!
The machines of node groups: their templates, the control plane and the deployments of workers.
-/

namespace ClusterLifecycle

/-- A group's own flavor, or else the template's for its role. -/
def NodeGroup.flavorIn (g : NodeGroup) (t : Template) : String :=
  g.flavor.getD <| match g.role with
    | .master => t.masterFlavor
    | .worker => t.flavor

def NodeGroup.imageIn (g : NodeGroup) (t : Template) : String := g.image.getD t.image

namespace Manifest

open ResourceKind

/-- The labels of what belongs to a node group. -/
def groupLabels (c : Cluster) (g : NodeGroup) : List (String × String) :=
  [(clusterNameLabel, c.uuid.toString), (nodeGroupLabel, g.name)]

def machineTemplate (target : ObjectRef) (c : Cluster) (g : NodeGroup) : Manifest where
  target
  labels := labelled (groupLabels c g)
  content := [
    ("spec", .object [
      ("template", .object [
        ("spec", .object ([
          ("cloudName", .string "default"),
          ("identityRef", identityReference c),
          ("flavor", .string (g.flavorIn c.template)),
          ("image", .string (g.imageIn c.template))] ++
          c.keypair.toList.map fun keypair => ("sshKeyName", .string keypair)))])])]

/-- Leaves the cloud to the cloud controller manager. -/
def externalCloud : Json := .object [("cloud-provider", "external")]

/-- Nodes take the name of their host, which is filled in where they start. -/
def nodeRegistration : Json :=
  .object [("name", "\x7b\x7b local_hostname \x7d\x7d"), ("kubeletExtraArgs", externalCloud)]

/-- The nodes read the cloud provider's configuration from the secret, so that the body holds no
credential. -/
def controlPlane (target : ObjectRef) (c : Cluster) (g : NodeGroup) : Manifest where
  target
  labels := labelled (groupLabels c g)
  content := [
    ("spec", .object [
      ("replicas", .ofNat g.nodeCount.toNat),
      ("version", c.kubeTag),
      ("machineTemplate", .object [
        ("infrastructureRef", reference ResourceKind.machineTemplate (groupObjectName c g))]),
      ("kubeadmConfigSpec", .object [
        ("initConfiguration", .object [("nodeRegistration", nodeRegistration)]),
        ("joinConfiguration", .object [("nodeRegistration", nodeRegistration)]),
        ("clusterConfiguration", .object [
          ("apiServer", .object [("extraArgs", externalCloud)]),
          ("controllerManager", .object [("extraArgs", externalCloud)])]),
        ("files", .array [
          .object [
            ("path", cloudConfPath),
            ("owner", "root:root"),
            ("permissions", "0600"),
            ("contentFrom", .object [
              ("secret", .object [("name", cloudConfigName c), ("key", "cloud.conf")])])]])])])]

/-- What all worker groups of a cluster share. -/
def workerTemplate (target : ObjectRef) (c : Cluster) : Manifest where
  target
  labels := labelled [(clusterNameLabel, c.uuid.toString)]
  content := [
    ("spec", .object [
      ("template", .object [
        ("spec", .object [
          ("joinConfiguration", .object [("nodeRegistration", nodeRegistration)])])])])]

def machineDeployment (target : ObjectRef) (c : Cluster) (g : NodeGroup) : Manifest :=
  let uuid := c.uuid.toString
  let selector : Json := .object [(clusterNameLabel, uuid), (nodeGroupLabel, g.name)]
  { target
    labels := labelled (groupLabels c g)
    content := [
      ("spec", .object [
        ("clusterName", uuid),
        ("replicas", .ofNat g.nodeCount.toNat),
        ("selector", .object [("matchLabels", selector)]),
        ("template", .object [
          ("metadata", .object [("labels", selector)]),
          ("spec", .object [
            ("clusterName", uuid),
            ("version", c.kubeTag),
            ("bootstrap", .object [("configRef", reference ResourceKind.workerTemplate uuid)]),
            ("infrastructureRef",
              reference ResourceKind.machineTemplate (groupObjectName c g))])])])] }

end Manifest

end ClusterLifecycle
