import ClusterLifecycle.Proofs.Parts

/-!
The objects that manifests refer to, as their bodies say.
-/

namespace ClusterLifecycle

namespace Json

mutual

/-- The fields of a value, however deep they stand. -/
def everyField : Json → List (String × Json)
  | object fields => everyFieldIn fields
  | array items => everyFieldAmong items
  | _ => []

def everyFieldAmong : List Json → List (String × Json)
  | [] => []
  | item :: rest => everyField item ++ everyFieldAmong rest

def everyFieldIn : List (String × Json) → List (String × Json)
  | [] => []
  | (name, value) :: rest => (name, value) :: everyField value ++ everyFieldIn rest

end

/-- The text that stands in a field. -/
def text? (j : Json) (name : String) : Option String := (j.get? name).bind string?

/-- The object whose kind and name the value gives. One without a version is of the core. -/
def referent? (j : Json) (scope : Option String) : Option ObjectRef := do
  let kind ← j.text? "kind"
  let name ← j.text? "name"
  return { apiVersion := (j.text? "apiVersion").getD "v1", kind, name, scope }

end Json

namespace Manifest

/-- The object that a field refers to. -/
def reference? (scope : Option String) : String × Json → Option ObjectRef
  | ("configRef", j) | ("infrastructureRef", j) | ("identityRef", j) => j.referent? scope
  | ("contentFrom", j) => do
    let name ← (← j.get? "secret").text? "name"
    return { apiVersion := "v1", kind := "Secret", name, scope }
  | _ => none

/-- All objects that the body refers to, in the namespace of its own. -/
def references (m : Manifest) : List ObjectRef :=
  m.toJson.everyField.filterMap (reference? m.target.scope)

end Manifest

namespace Deployment

/-- The template of a group's machines. -/
def machineTemplateRef (d : Deployment) (c : Cluster) (g : NodeGroup) : ObjectRef where
  apiVersion := "infrastructure.cluster.x-k8s.io/v1alpha5"
  kind := "OpenStackMachineTemplate"
  name := ResourceKind.groupObjectName c g
  scope := some d.scope

/-- The template that all worker groups share. -/
def workerTemplateRef (d : Deployment) (c : Cluster) : ObjectRef where
  apiVersion := "bootstrap.cluster.x-k8s.io/v1beta1"
  kind := "KubeadmConfigTemplate"
  name := c.uuid.toString
  scope := some d.scope

variable {d : Deployment} {c : Cluster} {g : NodeGroup} {m : Manifest}

theorem target_machineTemplate (d : Deployment) (c : Cluster) (g : NodeGroup) :
    d.target .machineTemplate c (some g) = .ok (d.machineTemplateRef c g) := rfl

theorem target_workerTemplate (d : Deployment) (c : Cluster) (g : Option NodeGroup) :
    d.target .workerTemplate c g = .ok (d.workerTemplateRef c) := by
  unfold workerTemplateRef
  rw [← String.append_empty (s := c.uuid.toString)]
  rfl

theorem references_machineTemplate (h : d.manifest .machineTemplate c (some g) none = .ok m) :
    m.references = [d.secretRef c] := by
  cases h
  unfold Manifest.machineTemplate Manifest.references
  cases c.keypair <;> rfl

theorem references_controlPlane (h : d.manifest .controlPlane c (some g) none = .ok m) :
    m.references = [d.machineTemplateRef c g, d.secretRef c] := by
  cases h
  rfl

theorem references_machineDeployment
    (h : d.manifest .machineDeployment c (some g) none = .ok m) :
    m.references = [d.workerTemplateRef c, d.machineTemplateRef c g] := by
  cases h
  rfl

theorem references_workerTemplate (h : d.manifest .workerTemplate c none none = .ok m) :
    m.references = [] := by
  cases h
  rfl

/-- The objects of a group refer to the secret of the cluster and to the templates of their
machines, and those of workers to the template that they share. -/
theorem references_group {p : Part} {r : ObjectRef} (own : p ∈ g.parts true)
    (drawn : d.manifest p.1 c p.2 none = .ok m) (refers : r ∈ m.references) :
    r = d.secretRef c ∨ r = d.machineTemplateRef c g ∨
      (g.role = .worker ∧ r = d.workerTemplateRef c) := by
  rcases List.mem_cons.1 own with rfl | own
  · rw [references_machineTemplate drawn, List.mem_singleton] at refers
    exact .inl refers
  cases role : g.role with
  | master =>
    rw [role, List.mem_singleton] at own
    subst own
    simp only [references_controlPlane drawn, List.mem_cons, List.not_mem_nil, or_false] at refers
    exact refers.symm.imp_right .inl
  | worker =>
    simp only [role, if_pos, List.singleton_append, List.mem_cons, List.not_mem_nil, or_false] at own
    rcases own with rfl | rfl
    · rw [references_workerTemplate drawn] at refers
      cases refers
    · simp only [references_machineDeployment drawn, List.mem_cons, List.not_mem_nil,
        or_false] at refers
      exact .inr (refers.symm.imp_right fun same => ⟨rfl, same⟩)

end Deployment

end ClusterLifecycle
