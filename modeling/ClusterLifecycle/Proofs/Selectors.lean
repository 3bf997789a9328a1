import ClusterLifecycle.Proofs.Parts
import ClusterLifecycle.Proofs.Texts

/-!
What the body of a manifest says of itself, and which others its selectors choose.

* `manifest_common`: a body tells the object it goes to;
* `Manifest.Chooses`, `Manifest.Owns`: the clusters that a resource set goes to and the machines of
  a deployment, by their labels;
* `manifests_agree`: each selector chooses its own, and nothing else.
-/

namespace ClusterLifecycle

namespace Json

/-- The value at the end of a path of names. -/
def at? : Json → List String → Option Json
  | j, [] => some j
  | j, name :: rest => (j.get? name).bind (·.at? rest)

/-- Every entry of a selector is a text, and the label of its name has that text. -/
def Selects (selector labels : Json) : Prop :=
  ∀ entry ∈ selector.fields,
    ∃ text, entry.2 = .string text ∧ labels.get? entry.1 = some (.string text)

variable {labels : Json}

theorem selects_nil : (object []).Selects labels := nofun

theorem selects_cons {name text : String} {rest : List (String × Json)} :
    (object ((name, .string text) :: rest)).Selects labels ↔
      labels.get? name = some (.string text) ∧ (object rest).Selects labels := by
  constructor
  · intro selects
    obtain ⟨text', same, label⟩ := selects _ List.mem_cons_self
    cases same
    exact ⟨label, fun entry member => selects entry (List.mem_cons_of_mem _ member)⟩
  · rintro ⟨label, others⟩ entry member
    rcases List.mem_cons.1 member with rfl | member
    · exact ⟨text, rfl, label⟩
    · exact others entry member

end Json

namespace Manifest

/-- The fields that every object has. -/
def common (m : Manifest) : Json := { m with content := [] : Manifest }.toJson

def metadata (m : Manifest) : Json :=
  let labels := m.labels.entries.map fun (key, value) => (key, Json.string value)
  .object ([("name", .string m.target.name), ("labels", .object labels)] ++
    m.target.scope.toList.map fun scope => ("namespace", .string scope))

/-- The object carries the labels of the clusters that the resource set goes to. -/
def Chooses (m n : Manifest) : Prop :=
  ∃ selector labels, m.toJson.at? ["spec", "clusterSelector", "matchLabels"] = some selector ∧
    n.toJson.at? ["metadata", "labels"] = some labels ∧ selector.Selects labels

/-- The machines that one deployment makes carry the labels of the machines of another. -/
def Owns (m n : Manifest) : Prop :=
  ∃ selector labels, m.toJson.at? ["spec", "selector", "matchLabels"] = some selector ∧
    n.toJson.at? ["spec", "template", "metadata", "labels"] = some labels ∧
      selector.Selects labels

end Manifest

namespace Deployment

variable {d e : Deployment} {k : ResourceKind} {a b c : Cluster} {g h : Option NodeGroup}
  {credential other : Option Credential} {m n : Manifest}

/-- The body says which object it goes to. -/
structure Tells (m : Manifest) : Prop where
  apiVersion : m.toJson.at? ["apiVersion"] = some (.string m.target.apiVersion)
  kind : m.toJson.at? ["kind"] = some (.string m.target.kind)
  name : m.toJson.at? ["metadata", "name"] = some (.string m.target.name)
  scope : m.toJson.at? ["metadata", "namespace"] = m.target.scope.map .string

theorem get?_common (names : m.content.map (·.1) ⊆ contentNames) {name : String}
    (apart : name ∉ contentNames) : m.toJson.get? name = m.common.get? name :=
  Json.get?_foldl_set (fun mem => apart (names mem)) _

theorem get?_metadata (names : m.content.map (·.1) ⊆ contentNames) :
    m.toJson.get? "metadata" = some m.metadata :=
  get?_common names (by decide)

theorem tells_of_names (names : m.content.map (·.1) ⊆ contentNames) : Tells m := by
  constructor
  case apiVersion =>
    rw [Json.at?, get?_common names (by decide)]
    rfl
  case kind =>
    rw [Json.at?, get?_common names (by decide)]
    rfl
  case name =>
    rw [Json.at?, get?_metadata names, Manifest.metadata]
    cases m.target.scope <;> rfl
  case scope =>
    rw [Json.at?, get?_metadata names, Manifest.metadata]
    cases m.target.scope <;> rfl

theorem labels_of_names (names : m.content.map (·.1) ⊆ contentNames) :
    m.toJson.at? ["metadata", "labels"] =
      some (.object (m.labels.entries.map fun (key, value) => (key, .string value))) := by
  rw [Json.at?, get?_metadata names, Manifest.metadata]
  cases m.target.scope <;> rfl

theorem entries_labelled (identity : String) :
    (Manifest.labelled [(Manifest.clusterUuidLabel, identity)]).entries =
      [(Manifest.managedByLabel, Manifest.managedBy), (Manifest.clusterUuidLabel, identity)] := by
  have after : ¬ Manifest.clusterUuidLabel < Manifest.managedByLabel := by decide
  have other : Manifest.clusterUuidLabel ≠ Manifest.managedByLabel := by decide
  change Labels.insertEntry Manifest.clusterUuidLabel identity
    [(Manifest.managedByLabel, Manifest.managedBy)] = _
  rw [Labels.insertEntry, if_neg after, if_neg other]
  rfl

/-- A cluster carries its identity as a label. -/
theorem labels_cluster (made : d.manifest .cluster c g credential = .ok m) :
    m.toJson.at? ["metadata", "labels"] =
      some (.object [(Manifest.managedByLabel, .string Manifest.managedBy),
        (Manifest.clusterUuidLabel, .string c.uuid.toString)]) := by
  rw [labels_of_names (manifest_content made).2]
  obtain ⟨target, -, made⟩ := bind_ok made
  obtain ⟨master, -, made⟩ := bind_ok made
  cases made
  change some (Json.object ((Manifest.labelled [(Manifest.clusterUuidLabel, _)]).entries.map _)) = _
  rw [entries_labelled]
  rfl

/-- A resource set asks for the identity of its cluster. -/
theorem selector_resourceSet
    (set_ : k = .controllerManagerResourceSet ∨ k = .cniResourceSet)
    (made : d.manifest k c g credential = .ok m) :
    m.toJson.at? ["spec", "clusterSelector", "matchLabels"] =
      some (.object [(Manifest.clusterUuidLabel, .string c.uuid.toString)]) := by
  obtain ⟨target, -, made⟩ := bind_ok made
  rcases set_ with rfl | rfl <;>
  · obtain ⟨config, -, made⟩ := bind_ok made
    cases made
    rfl

theorem chooses_iff (set_ : k = .controllerManagerResourceSet ∨ k = .cniResourceSet)
    (made : d.manifest k a g credential = .ok m) (made' : e.manifest .cluster b h other = .ok n) :
    m.Chooses n ↔ a.uuid = b.uuid := by
  have label (uuid : String) :
      (Json.object [(Manifest.managedByLabel, .string Manifest.managedBy),
        (Manifest.clusterUuidLabel, .string uuid)]).get? Manifest.clusterUuidLabel =
          some (.string uuid) := rfl
  simp only [Manifest.Chooses, selector_resourceSet set_ made, labels_cluster made',
    Option.some.injEq, exists_and_left, exists_eq_left', Json.selects_cons, Json.selects_nil,
    and_true, label, Json.string.injEq]
  constructor
  · intro same
    exact Uuid.toString_injective same.symm
  · intro same
    rw [same]

/-- What a deployment selects its machines by, which is what they carry. -/
def machineLabels (c : Cluster) (g : NodeGroup) : Json :=
  .object [(Manifest.clusterNameLabel, .string c.uuid.toString),
    (Manifest.nodeGroupLabel, .string g.name)]

theorem selector_machineDeployment {g : NodeGroup}
    (made : d.manifest .machineDeployment c g credential = .ok m) :
    m.toJson.at? ["spec", "selector", "matchLabels"] = some (machineLabels c g) := by
  cases made
  rfl

theorem labels_machineDeployment {g : NodeGroup}
    (made : d.manifest .machineDeployment c g credential = .ok m) :
    m.toJson.at? ["spec", "template", "metadata", "labels"] = some (machineLabels c g) := by
  cases made
  rfl

theorem owns_machines_iff {g h : NodeGroup}
    (made : d.manifest .machineDeployment a g credential = .ok m)
    (made' : e.manifest .machineDeployment b h other = .ok n) :
    m.Owns n ↔ a.uuid = b.uuid ∧ g.name = h.name := by
  have cluster : (machineLabels b h).get? Manifest.clusterNameLabel =
      some (.string b.uuid.toString) := rfl
  have group : (machineLabels b h).get? Manifest.nodeGroupLabel = some (.string h.name) := rfl
  have selects : (machineLabels a g).Selects (machineLabels b h) ↔
      b.uuid.toString = a.uuid.toString ∧ h.name = g.name := by
    rw [machineLabels, Json.selects_cons, Json.selects_cons, cluster, group]
    simp [Json.selects_nil]
  simp only [Manifest.Owns, selector_machineDeployment made, labels_machineDeployment made',
    Option.some.injEq, exists_and_left, exists_eq_left', selects]
  constructor
  · rintro ⟨uuid, name⟩
    exact ⟨Uuid.toString_injective uuid.symm, name.symm⟩
  · rintro ⟨uuid, name⟩
    exact ⟨congrArg Uuid.toString uuid.symm, name.symm⟩

/-- Whatever is made tells the object it goes to. A resource set goes to the clusters of its own
identity, and a deployment has the machines of its own cluster and group, and no others. -/
theorem manifests_agree :
    (∀ (d : Deployment) (k : ResourceKind) (c : Cluster) (g : Option NodeGroup)
      (credential : Option Credential) (m : Manifest), d.manifest k c g credential = .ok m →
        d.target k c g = .ok m.target ∧ Tells m) ∧
    (∀ (d : Deployment) (k : ResourceKind) (a : Cluster) (g : Option NodeGroup)
      (credential : Option Credential),
      k = .controllerManagerResourceSet ∨ k = .cniResourceSet →
        ∃ m, d.manifest k a g credential = .ok m ∧
          ∀ (e : Deployment) (b : Cluster) (h : Option NodeGroup) (other : Option Credential)
            (n : Manifest), e.manifest .cluster b h other = .ok n →
              (m.Chooses n ↔ a.uuid = b.uuid)) ∧
    (∀ (d : Deployment) (a : Cluster) (g : NodeGroup) (credential : Option Credential),
      ∃ m, d.manifest .machineDeployment a g credential = .ok m ∧
        ∀ (e : Deployment) (b : Cluster) (h : NodeGroup) (other : Option Credential),
          ∃ n, e.manifest .machineDeployment b h other = .ok n ∧
            (m.Owns n ↔ a.uuid = b.uuid ∧ g.name = h.name)) := by
  refine ⟨?_, ?_, ?_⟩
  · intro d k c g credential m made
    obtain ⟨target, names⟩ := manifest_content made
    exact ⟨target, tells_of_names names⟩
  · intro d k a g credential set_
    have made : ∃ m, d.manifest k a g credential = .ok m := by
      rcases set_ with rfl | rfl
      · exact ⟨_, rfl⟩
      · exact ⟨_, rfl⟩
    obtain ⟨m, made⟩ := made
    exact ⟨m, made, fun e b h other n made' => chooses_iff set_ made made'⟩
  · intro d a g credential
    have made : ∃ m, d.manifest .machineDeployment a g credential = .ok m := ⟨_, rfl⟩
    obtain ⟨m, made⟩ := made
    refine ⟨m, made, ?_⟩
    intro e b h other
    have made' : ∃ n, e.manifest .machineDeployment b h other = .ok n := ⟨_, rfl⟩
    obtain ⟨n, made'⟩ := made'
    exact ⟨n, made', owns_machines_iff made made'⟩

theorem manifests_agree_sample :
    let d := Deployment.sample
    let c := Cluster.sample .nil
    let g : NodeGroup := { name := "default-worker", role := .worker, nodeCount := 2 }
    let h : NodeGroup := { name := "more", role := .worker, nodeCount := 2 }
    ∃ set object machines others, d.manifest .cniResourceSet c none none = .ok set ∧
      d.manifest .cluster c none none = .ok object ∧
      d.manifest .machineDeployment c g none = .ok machines ∧
      d.manifest .machineDeployment c h none = .ok others ∧
      Tells object ∧ set.Chooses object ∧ machines.Owns machines ∧ ¬ machines.Owns others := by
  intro d c g h
  obtain ⟨tells, chooses, owns⟩ := manifests_agree
  obtain ⟨set, set_made, chosen⟩ := chooses d .cniResourceSet c none none (.inr rfl)
  have object_made : ∃ object, d.manifest .cluster c none none = .ok object := ⟨_, rfl⟩
  obtain ⟨object, object_made⟩ := object_made
  obtain ⟨machines, machines_made, owned⟩ := owns d c g none
  obtain ⟨own, own_made, own_owned⟩ := owned d c g none
  obtain ⟨others, others_made, others_owned⟩ := owned d c h none
  refine ⟨set, object, machines, others, set_made, object_made, machines_made, others_made,
    (tells d .cluster c none none object object_made).2, ?_, ?_, ?_⟩
  · exact (chosen d c none none object object_made).2 rfl
  · rw [machines_made] at own_made
    cases own_made
    exact own_owned.2 ⟨rfl, rfl⟩
  · intro owns
    exact absurd (others_owned.1 owns).2 (by decide)

end Deployment

end ClusterLifecycle
