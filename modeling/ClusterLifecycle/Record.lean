import ClusterLifecycle.Cluster
import ClusterLifecycle.Yaml.Reading
import ClusterLifecycle.Yaml.Writer

/-!
Cluster records as YAML. Optional fields that are absent are left out; on reading, a missing field
takes its default, and unknown fields are passed over.
-/

namespace ClusterLifecycle

open Yaml

namespace Record

def text (name value : String) : List (String × Value) := [(name, .text value)]

def optionalText (name : String) : Option String → List (String × Value)
  | none => []
  | some value => text name value

end Record

open Record

def Status.ofYaml? (d : Document) (n : Node) : Option Status :=
  (d.text? n).bind fun text => (Status.parse text).toOption

namespace NodeGroup

def toYaml (g : NodeGroup) : Value :=
  .mapping <| text "name" g.name ++ text "role" g.role.toString ++
    [("node_count", .word (toString g.nodeCount.toNat))] ++
    optionalText "flavor_id" g.flavor ++ optionalText "image_id" g.image ++
    text "status" g.status.toString ++ optionalText "status_reason" g.statusReason

def fieldNames : List String :=
  ["name", "role", "node_count", "flavor_id", "image_id", "status", "status_reason"]

def ofYaml? (d : Document) (n : Node) : Option NodeGroup := do
  let fields ← d.record? fieldNames n
  let optional (name : String) := defaulted fields name none (d.optional? d.text?)
  let name ← required fields "name" d.text?
  let role ← required fields "role" (d.choice? Role.ofString?)
  let nodeCount ← required fields "node_count" (d.natural? (Nat.pow 2 32))
  let flavor ← optional "flavor_id"
  let image ← optional "image_id"
  let status ← required fields "status" (Status.ofYaml? d)
  let statusReason ← optional "status_reason"
  some { name, role, nodeCount := .ofNat nodeCount, flavor, image, status, statusReason }

end NodeGroup

namespace KeyPair

def toYaml (k : KeyPair) : Value :=
  .mapping (text "certificate" k.certificate ++ text "private_key" k.privateKey)

def ofYaml? (d : Document) (n : Node) : Option KeyPair := do
  let fields ← d.record? ["certificate", "private_key"] n
  let certificate ← required fields "certificate" d.text?
  let privateKey ← required fields "private_key" d.text?
  some { certificate, privateKey }

end KeyPair

namespace Authorities

def toYaml (a : Authorities) : Value :=
  let pair (name : String) (k : Option KeyPair) := k.toList.map fun k => (name, k.toYaml)
  .mapping <| pair "api" a.api ++ pair "etcd" a.etcd ++ pair "front_proxy" a.frontProxy ++
    pair "service_account" a.serviceAccount

def ofYaml? (d : Document) (n : Node) : Option Authorities := do
  let fields ← d.record? ["api", "etcd", "front_proxy", "service_account"] n
  let pair (name : String) := defaulted fields name none (d.optional? (KeyPair.ofYaml? d))
  let api ← pair "api"
  let etcd ← pair "etcd"
  let frontProxy ← pair "front_proxy"
  let serviceAccount ← pair "service_account"
  some { api, etcd, frontProxy, serviceAccount }

end Authorities

namespace Labels

def toYaml (labels : Labels) : Value :=
  .mapping (labels.entries.map fun (key, value) => (key, .text value))

def ofYaml? (d : Document) (n : Node) : Option Labels := do
  let fields ← d.fields? n
  let entries ← fields.mapM fun (key, value) => (d.text? value).map (key, ·)
  some (Labels.ofList entries)

end Labels

namespace Template

def toYaml (t : Template) : Value :=
  .mapping <| text "network_driver" t.networkDriver.toString ++ text "image_id" t.image ++
    text "master_flavor_id" t.masterFlavor ++ text "flavor_id" t.flavor ++
    text "external_network_id" t.externalNetwork ++ text "dns_nameserver" t.dnsNameserver ++
    text "fixed_subnet_cidr" t.fixedSubnetCidr ++ [("labels", t.labels.toYaml)]

def fieldNames : List String :=
  ["network_driver", "image_id", "master_flavor_id", "flavor_id", "external_network_id",
    "dns_nameserver", "fixed_subnet_cidr", "labels"]

def ofYaml? (d : Document) (n : Node) : Option Template := do
  let fields ← d.record? fieldNames n
  let networkDriver ← required fields "network_driver" (d.choice? NetworkDriver.ofString?)
  let image ← required fields "image_id" d.text?
  let masterFlavor ← required fields "master_flavor_id" d.text?
  let flavor ← required fields "flavor_id" d.text?
  let externalNetwork ← required fields "external_network_id" d.text?
  let dnsNameserver ← required fields "dns_nameserver" d.text?
  let fixedSubnetCidr ← defaulted fields "fixed_subnet_cidr" defaultSubnetCidr d.text?
  let labels ← defaulted fields "labels" ∅ (Labels.ofYaml? d)
  some { networkDriver, image, masterFlavor, flavor, externalNetwork, dnsNameserver,
         fixedSubnetCidr, labels }

end Template

namespace Cluster

def toYaml (c : Cluster) : Value :=
  .mapping <| text "uuid" c.uuid.toString ++ text "name" c.name ++ text "user_id" c.userId ++
    text "project_id" c.projectId ++ text "status" c.status.toString ++
    optionalText "status_reason" c.statusReason ++ optionalText "api_address" c.apiAddress ++
    optionalText "coe_version" c.coeVersion ++ [("cluster_template", c.template.toYaml)] ++
    optionalText "keypair" c.keypair ++ [("certificate_authorities", c.authorities.toYaml),
      ("nodegroups", .sequence (c.nodeGroups.map NodeGroup.toYaml))] ++
    optionalText "updated_at" (c.updatedAt.map Timestamp.toString)

def fieldNames : List String :=
  ["uuid", "name", "user_id", "project_id", "status", "status_reason", "api_address",
    "coe_version", "cluster_template", "keypair", "certificate_authorities", "nodegroups",
    "updated_at"]

def ofYaml? (d : Document) (n : Node) : Option Cluster := do
  let fields ← d.record? fieldNames n
  let optional (name : String) := defaulted fields name none (d.optional? d.text?)
  let uuid ← required fields "uuid" fun n => (d.text? n).bind Uuid.ofString?
  let name ← required fields "name" d.text?
  let userId ← required fields "user_id" d.text?
  let projectId ← required fields "project_id" d.text?
  let status ← required fields "status" (Status.ofYaml? d)
  let statusReason ← optional "status_reason"
  let apiAddress ← optional "api_address"
  let coeVersion ← optional "coe_version"
  let template ← required fields "cluster_template" (Template.ofYaml? d)
  let keypair ← optional "keypair"
  let authorities ← defaulted fields "certificate_authorities" {} (Authorities.ofYaml? d)
  let nodeGroups ← required fields "nodegroups" fun n =>
    (d.items? n).bind fun items => items.mapM (NodeGroup.ofYaml? d)
  let updatedAt ← defaulted fields "updated_at" none
    (d.optional? fun n => (d.text? n).bind Timestamp.ofString?)
  some { uuid, name, userId, projectId, status, statusReason, apiAddress, coeVersion, template,
         keypair, authorities, nodeGroups, updatedAt }

/-- The text of a record. -/
def render (c : Cluster) : String := Yaml.render c.toYaml

/-- Reads a record's text. -/
def read? (text : String) : Option Cluster :=
  (document? text.toList).bind fun d => ofYaml? d d.root

end Cluster

namespace NodeGroup

def render (g : NodeGroup) : String := Yaml.render g.toYaml

def read? (text : String) : Option NodeGroup :=
  (document? text.toList).bind fun d => ofYaml? d d.root

end NodeGroup

end ClusterLifecycle
