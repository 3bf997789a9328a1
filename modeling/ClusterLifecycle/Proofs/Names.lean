import ClusterLifecycle.Proofs.Parts

/-!
The names of a cluster's objects.

* `ResourceKind.ref_eq`: a name is the cluster's identity with a suffix of its kind or group;
* `target_injective`: parts of a cluster that go to one object are of one kind and one group name;
* `targets_nodup`: with distinct group names every object is applied once.
-/

namespace ClusterLifecycle

/-- What follows the cluster's identity in the name of an object. -/
def ResourceKind.suffix (k : ResourceKind) (c : Cluster) (g : Option NodeGroup) : String :=
  match k with
  | controllerManagerConfig | controllerManagerResourceSet => "-cloud-controller-manager"
  | cniConfig | cniResourceSet => "-" ++ c.template.networkDriver.toString
  | cloudConfigSecret => "-cloud-config"
  | apiAuthority => "-ca"
  | etcdAuthority => "-etcd"
  | frontProxyAuthority => "-proxy"
  | serviceAccountAuthority => "-sa"
  | machineTemplate | controlPlane | machineDeployment => "-" ++ (g.map (·.name)).getD ""
  | sharedNamespace | workerTemplate | cluster | openStackCluster => ""

/-- A reference is read off the kind, the namespace, the cluster's identity and what follows that. -/
theorem ResourceKind.ref_eq {k : ResourceKind} {scope : String} {c : Cluster}
    {g : Option NodeGroup} {t : ObjectRef} (other : k ≠ .sharedNamespace)
    (ok : k.ref scope c g = .ok t) :
    t = { apiVersion := k.apiVersion, kind := k.kind
          name := c.uuid.toString ++ k.suffix c g, scope := some scope } := by
  cases k with
  | sharedNamespace => exact absurd rfl other
  | machineTemplate | controlPlane | machineDeployment =>
    cases g with
    | none => cases ok
    | some g =>
      cases ok
      rw [groupObjectName, String.append_assoc]
      rfl
  | _ => cases ok; rfl

namespace Deployment

variable {d : Deployment} {c c' : Cluster} {k l : ResourceKind} {g h : Option NodeGroup}
  {t : ObjectRef}

theorem target_name (other : k ≠ .sharedNamespace) (ok : d.target k c g = .ok t) :
    t.name = c.uuid.toString ++ k.suffix c g :=
  congrArg ObjectRef.name (ResourceKind.ref_eq other ok)

theorem kind_of_suffix (kinds : k.kind = l.kind) (suffixes : k.suffix c g = l.suffix c' h) :
    k = l := by
  have apart (n : NetworkDriver) : "-" ++ n.toString ≠ "-cloud-controller-manager" := by
    cases n <;> decide
  -- Kinds of one name are the config maps, the resource sets and the secrets.
  cases k <;> cases l <;> first
    | rfl
    | exact absurd kinds (by decide)
    | simp [ResourceKind.suffix, apart, fun n => (apart n).symm] at suffixes

/-- Parts of a cluster that go to one object are of one kind, and of one group name where their kind
has groups. -/
theorem target_injective (ok : d.target k c g = .ok t) (ok' : d.target l c h = .ok t) :
    k = l ∧ (Grouped k → g.map (·.name) = h.map (·.name)) := by
  have kinds : k.kind = l.kind := (target_kind ok).symm.trans (target_kind ok')
  by_cases shared : k = .sharedNamespace
  · subst shared
    refine ⟨?_, False.elim⟩
    cases l with
    | sharedNamespace => rfl
    | _ => exact absurd kinds (by decide)
  have shared' : l ≠ .sharedNamespace := by
    rintro rfl
    cases k with
    | sharedNamespace => exact shared rfl
    | _ => exact absurd kinds (by decide)
  have suffixes : k.suffix c g = l.suffix c h :=
    (String.append_right_inj _).1 ((target_name shared ok).symm.trans (target_name shared' ok'))
  obtain rfl := kind_of_suffix kinds suffixes
  refine ⟨rfl, ?_⟩
  intro grouped
  cases k with
  | machineTemplate | controlPlane | machineDeployment =>
    cases g with
    | none => cases ok
    | some g =>
      cases h with
      | none => cases ok'
      | some h => exact congrArg some ((String.append_right_inj _).1 suffixes)
  | _ => exact grouped.elim

/-- What tells the parts of a cluster apart: the kind, and the name of the group. -/
def key (p : Part) : ResourceKind × Option String := (p.1, p.2.map (·.name))

/-- The keys of a group's parts name that group, but for the shared template. -/
theorem key_groupParts {g : NodeGroup} {sharedTemplate : Bool} {p : Part}
    (member : p ∈ g.parts sharedTemplate) :
    (key p).2 = some g.name ∨ (sharedTemplate = true ∧ key p = (.workerTemplate, none)) := by
  unfold NodeGroup.parts at member
  cases hr : g.role <;> cases sharedTemplate <;>
    simp only [hr, Bool.false_eq_true, ↓reduceIte, List.nil_append, List.cons_append,
      List.mem_cons, List.not_mem_nil, or_false] at member <;>
    rcases member with rfl | rfl | rfl <;> simp [key]

theorem keys_groupParts_nodup (g : NodeGroup) (sharedTemplate : Bool) :
    ((g.parts sharedTemplate).map key).Nodup := by
  unfold NodeGroup.parts
  cases g.role <;> cases sharedTemplate <;> simp [key]

/-- The kinds of object that belong to node groups. -/
def ofGroups : ResourceKind → Bool
  | .machineTemplate | .controlPlane | .workerTemplate | .machineDeployment => true
  | _ => false

theorem ofGroups_allParts {groups : List NodeGroup} {sharedTemplate : Bool} {p : Part}
    (member : p ∈ NodeGroup.allParts sharedTemplate groups) : ofGroups p.1 = true := by
  induction groups generalizing sharedTemplate with
  | nil => cases member
  | cons g rest ih =>
    rcases List.mem_append.1 member with here | later
    · unfold NodeGroup.parts at here
      cases hr : g.role <;> cases hs : (sharedTemplate && !g.isMaster) <;>
        simp only [hr, hs, Bool.false_eq_true, ↓reduceIte, List.nil_append, List.cons_append,
          List.mem_cons, List.not_mem_nil, or_false] at here <;>
        rcases here with rfl | rfl | rfl <;> rfl
    · exact ih later

/-- The parts of a cluster that belong to no group. -/
def fixedParts (c : Cluster) : List Part :=
  c.foundation ++ ResourceKind.authorities.map (·, none) ++
    [(.openStackCluster, none), (.cluster, none)]

theorem fixedParts_facts (c : Cluster) :
    ((fixedParts c).map key).Nodup ∧ ∀ p ∈ fixedParts c, ofGroups p.1 = false := by
  unfold fixedParts Cluster.foundation ResourceKind.authorities
  cases c.template.networkDriver.requiresAddon <;> simp [key, ofGroups]

theorem parts_perm (c : Cluster) :
    c.parts.Perm (fixedParts c ++ NodeGroup.allParts true c.nodeGroups) := by
  unfold Cluster.parts Cluster.superstructure fixedParts
  simp only [List.append_assoc]
  exact (List.perm_append_comm.append_left _).append_left _

/-- Only a kind that groups give a name to comes with a group. -/
def Tidy (p : Part) : Prop := p.2.isSome → Grouped p.1

theorem tidy_groupParts (g : NodeGroup) (sharedTemplate : Bool) :
    ∀ p ∈ g.parts sharedTemplate, Tidy p := by
  unfold NodeGroup.parts
  cases g.role <;> cases sharedTemplate <;> simp [Tidy, Grouped]

theorem tidy_allParts (sharedTemplate : Bool) (groups : List NodeGroup) :
    ∀ p ∈ NodeGroup.allParts sharedTemplate groups, Tidy p := by
  induction groups generalizing sharedTemplate with
  | nil => simp [NodeGroup.allParts]
  | cons g rest ih =>
    intro p hp
    rcases List.mem_append.1 hp with here | later
    · exact tidy_groupParts g _ p here
    · exact ih _ p later

theorem tidy_fixedParts (c : Cluster) : ∀ p ∈ fixedParts c, Tidy p := by
  unfold fixedParts Cluster.foundation ResourceKind.authorities
  cases c.template.networkDriver.requiresAddon <;> simp [Tidy]

theorem tidy_parts (c : Cluster) : ∀ p ∈ c.parts, Tidy p := by
  intro p hp
  rcases List.mem_append.1 ((parts_perm c).mem_iff.1 hp) with fixed | group
  · exact tidy_fixedParts c p fixed
  · exact tidy_allParts true _ p group

theorem key_eq_of_target {p q : Part} (hp : Tidy p) (hq : Tidy q)
    (ok : d.target p.1 c p.2 = .ok t) (ok' : d.target q.1 c q.2 = .ok t) : key p = key q := by
  obtain ⟨kind, name⟩ := target_injective ok ok'
  refine Prod.ext kind ?_
  by_cases grouped : Grouped p.1
  · exact name grouped
  · have lone : p.2 = none := by simpa using mt hp grouped
    have lone' : q.2 = none := by simpa using mt hq (kind ▸ grouped)
    simp only [key, lone, lone']

/-- With distinct group names every object of a cluster is applied once. -/
theorem targets_nodup {parts : List Part} {manifests : List Manifest}
    (drawn : d.Drawn c parts manifests) (tidy : ∀ p ∈ parts, Tidy p)
    (keys : (parts.map key).Nodup) : (manifests.map (·.target)).Nodup := by
  induction parts generalizing manifests with
  | nil =>
    cases manifests with
    | nil => exact .nil
    | cons m ms => cases drawn
  | cons p rest ih =>
    cases manifests with
    | nil => cases drawn
    | cons m ms =>
      obtain ⟨hm, hms⟩ := List.cons.inj drawn
      obtain ⟨fresh, keys⟩ := List.nodup_cons.1 keys
      refine List.nodup_cons.2 ⟨fun again => fresh ?_,
        ih hms (fun q hq => tidy q (List.mem_cons_of_mem p hq)) keys⟩
      obtain ⟨n, hn, same⟩ := List.mem_map.1 again
      obtain ⟨q, hq, hnq⟩ := Drawn.exists_part hms hn
      have target := (manifest_facts hnq).1
      rw [same] at target
      have key := key_eq_of_target (tidy p List.mem_cons_self)
        (tidy q (List.mem_cons_of_mem p hq)) (manifest_facts hm).1 target
      exact key ▸ List.mem_map_of_mem hq

end Deployment

end ClusterLifecycle
