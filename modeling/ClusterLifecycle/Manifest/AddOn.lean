import ClusterLifecycle.Json.Writer
import ClusterLifecycle.Manifest.CloudConfig
import ClusterLifecycle.Yaml.Writer

/-!
What is installed inside a cluster: config maps that hold objects as YAML, and the resource sets that
push them there.
-/

namespace ClusterLifecycle.Manifest

/-- The addresses of pods. -/
def podCidr : String := "10.100.0.0/16"

/-- The cloud controller manager as an object of the cluster. -/
def controllerManager (c : Cluster) : Json :=
  let name := "openstack-cloud-controller-manager"
  let selector : Json := .object [("k8s-app", name)]
  .object [
    ("apiVersion", "apps/v1"),
    ("kind", "DaemonSet"),
    ("metadata", .object [("name", name), ("namespace", "kube-system")]),
    ("spec", .object [
      ("selector", .object [("matchLabels", selector)]),
      ("template", .object [
        ("metadata", .object [("labels", selector)]),
        ("spec", .object [
          ("nodeSelector", .object [("node-role.kubernetes.io/control-plane", "")]),
          ("tolerations", .array [
            .object [("key", "node.cloudprovider.kubernetes.io/uninitialized"),
              ("value", "true"), ("effect", "NoSchedule")],
            .object [("key", "node-role.kubernetes.io/control-plane"),
              ("effect", "NoSchedule")]]),
          ("hostNetwork", true),
          ("containers", .array [
            .object [
              ("name", name),
              ("image", "docker.io/k8scloudprovider/" ++ name ++ ":" ++ c.kubeTag),
              ("args", .array [
                "/bin/" ++ name,
                "--cloud-config=" ++ cloudConfPath,
                "--cluster-name=" ++ c.uuid.toString,
                "--use-service-account-credentials=true"]),
              ("volumeMounts", .array [
                .object [("name", "cloud-config"), ("mountPath", cloudConfPath),
                  ("readOnly", true)]])]]),
          ("volumes", .array [
            .object [("name", "cloud-config"),
              ("hostPath", .object [("path", cloudConfPath), ("type", "File")])]])])])])]

/-- The settings of the network add-on as an object of the cluster. -/
def networkSettings : Json :=
  .object [
    ("apiVersion", "v1"),
    ("kind", "ConfigMap"),
    ("metadata", .object [("name", "calico-config"), ("namespace", "kube-system")]),
    ("data", .object [
      ("calico_backend", "bird"),
      ("veth_mtu", "0"),
      ("typha_service_name", "none"),
      ("cluster_cidr", podCidr)])]

/-- A config map that holds one object under a file name. -/
def configMap (target : ObjectRef) (file : String) (object : Json) : Manifest where
  target
  labels := labelled []
  content := [("data", .object [(file, Yaml.render object.toYaml)])]

def controllerManagerConfig (target : ObjectRef) (c : Cluster) : Manifest :=
  configMap target "cloud-controller-manager.yaml" (controllerManager c)

def cniConfig (target : ObjectRef) (c : Cluster) : Manifest :=
  configMap target (c.template.networkDriver.toString ++ ".yaml") networkSettings

/-- Pushes a config map into the clusters that carry the identity as a label. -/
def resourceSet (target config : ObjectRef) (c : Cluster) : Manifest where
  target
  labels := labelled []
  content := [
    ("spec", .object [
      ("clusterSelector", .object [
        ("matchLabels", .object [(clusterUuidLabel, c.uuid.toString)])]),
      ("resources", .array [.object [("name", config.name), ("kind", config.kind)]]),
      ("strategy", "ApplyOnce")])]

end ClusterLifecycle.Manifest
