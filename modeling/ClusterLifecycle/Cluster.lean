import ClusterLifecycle.Labels
import ClusterLifecycle.Status
import ClusterLifecycle.Timestamp
import ClusterLifecycle.Uuid

/-!
Records of managed clusters and their node groups.
-/

namespace ClusterLifecycle

inductive NetworkDriver where
  | calico | flannel | cilium
deriving DecidableEq, Repr

namespace NetworkDriver

protected def toString : NetworkDriver → String
  | calico => "calico"
  | flannel => "flannel"
  | cilium => "cilium"

instance : ToString NetworkDriver := ⟨NetworkDriver.toString⟩

def ofString? : String → Option NetworkDriver
  | "calico" => some calico
  | "flannel" => some flannel
  | "cilium" => some cilium
  | _ => none

/-- Only this driver is installed as an add-on of the workload cluster. -/
def requiresAddon (d : NetworkDriver) : Bool := d = calico

end NetworkDriver

inductive Role where
  | master | worker
deriving DecidableEq, Repr

namespace Role

protected def toString : Role → String
  | master => "master"
  | worker => "worker"

instance : ToString Role := ⟨Role.toString⟩

def ofString? : String → Option Role
  | "master" => some master
  | "worker" => some worker
  | _ => none

end Role

/-- A pool of identically configured nodes. -/
structure NodeGroup where
  name : String
  role : Role
  nodeCount : UInt32
  /-- Replaces the template's flavor. -/
  flavor : Option String := none
  /-- Replaces the template's image. -/
  image : Option String := none
  status : Status := .createInProgress
  statusReason : Option String := none
deriving DecidableEq, Repr

def NodeGroup.isMaster (g : NodeGroup) : Bool := g.role = .master

/-- A certificate and its private key. -/
structure KeyPair where
  certificate : String
  privateKey : String
deriving DecidableEq, Repr

/-- The certificate authorities that a control plane needs. -/
structure Authorities where
  api : Option KeyPair := none
  etcd : Option KeyPair := none
  frontProxy : Option KeyPair := none
  serviceAccount : Option KeyPair := none
deriving DecidableEq, Repr

structure Template where
  networkDriver : NetworkDriver
  image : String
  masterFlavor : String
  flavor : String
  externalNetwork : String
  dnsNameserver : String
  fixedSubnetCidr : String
  labels : Labels
deriving DecidableEq, Repr

def Template.defaultSubnetCidr : String := "10.0.0.0/24"

structure Cluster where
  uuid : Uuid
  name : String
  /-- The owner, whose account holds the application credential. -/
  userId : String
  projectId : String
  status : Status
  statusReason : Option String := none
  /-- Known once the control plane is ready. -/
  apiAddress : Option String := none
  /-- The Kubernetes version that the control plane reports. -/
  coeVersion : Option String := none
  template : Template
  keypair : Option String := none
  authorities : Authorities := {}
  nodeGroups : List NodeGroup
  /-- When the record was last saved. -/
  updatedAt : Option Timestamp := none
deriving DecidableEq, Repr

namespace Cluster

def masters (c : Cluster) : List NodeGroup := c.nodeGroups.filter (·.role = .master)

def workers (c : Cluster) : List NodeGroup := c.nodeGroups.filter (·.role = .worker)

def defaultKubeTag : String := "v1.23.5"

/-- The Kubernetes version asked for. -/
def kubeTag (c : Cluster) : String := (c.template.labels.get? "kube_tag").getD defaultKubeTag

/-- The first group of that name. -/
def nodeGroup? (c : Cluster) (name : String) : Option NodeGroup :=
  c.nodeGroups.find? (·.name = name)

/-- Puts the group in place of the first one of its name, or last where there is none. -/
def replaceGroup (g : NodeGroup) : List NodeGroup → List NodeGroup
  | [] => [g]
  | h :: rest => if h.name = g.name then g :: rest else h :: replaceGroup g rest

def withNodeGroup (c : Cluster) (g : NodeGroup) : Cluster :=
  { c with nodeGroups := replaceGroup g c.nodeGroups }

/-- A record to start from. -/
def sample (uuid : Uuid) : Cluster where
  uuid
  name := "k8s-cluster"
  userId := "3c1e6e5c2bb04a1a8e0a1e0e5d1f2a31"
  projectId := "8f2e7cbe7d9b4b4f9a4c0f8bd0a0c8a2"
  status := .createInProgress
  template :=
    { networkDriver := .calico
      image := "ubuntu-2004-kube-v1.23.5"
      masterFlavor := "m1.medium"
      flavor := "m1.large"
      externalNetwork := "public"
      dnsNameserver := "8.8.8.8"
      fixedSubnetCidr := Template.defaultSubnetCidr
      labels := Labels.ofList [("kube_tag", defaultKubeTag)] }
  keypair := some "default"
  nodeGroups :=
    [{ name := "default-master", role := .master, nodeCount := 1 },
     { name := "default-worker", role := .worker, nodeCount := 2 }]

end Cluster

end ClusterLifecycle
