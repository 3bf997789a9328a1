import ClusterLifecycle.Proofs.Worlds

/-!
The objects that creating a cluster applies, as a list of their kinds and groups in order.

* `createCluster_eq`: creating applies the parts of a cluster, with its cloud configuration among
  them;
* `Cluster.Complete`, `manifests_ok`: a complete record gives a manifest of every part;
* `keeps_applyParts`, `object?_foldl_place`: what applying a list of manifests does.
-/

namespace ClusterLifecycle

/-- A kind of object, with the node group that it belongs to. -/
abbrev Part := ResourceKind × Option NodeGroup

namespace NodeGroup

/-- The objects of a group, with the template that worker groups share on request. -/
def parts (g : NodeGroup) (sharedTemplate : Bool) : List Part :=
  (.machineTemplate, some g) :: match g.role with
    | .master => [(.controlPlane, some g)]
    | .worker =>
      (if sharedTemplate then [(.workerTemplate, none)] else []) ++ [(.machineDeployment, some g)]

/-- The objects of groups in order, the shared template with the first group of workers only. -/
def allParts (sharedTemplate : Bool) : List NodeGroup → List Part
  | [] => []
  | g :: rest =>
    g.parts (sharedTemplate && !g.isMaster) ++ allParts (sharedTemplate && g.isMaster) rest

end NodeGroup

namespace Cluster

/-- What is applied before the cloud configuration. -/
def foundation (c : Cluster) : List Part :=
  [(.sharedNamespace, none), (.controllerManagerConfig, none),
    (.controllerManagerResourceSet, none)] ++
  if c.template.networkDriver.requiresAddon then [(.cniConfig, none), (.cniResourceSet, none)]
  else []

/-- What is applied after the cloud configuration. -/
def superstructure (c : Cluster) : List Part :=
  ResourceKind.authorities.map (·, none) ++ NodeGroup.allParts true c.nodeGroups ++
    [(.openStackCluster, none), (.cluster, none)]

/-- All that is applied for a cluster but its cloud configuration. -/
def parts (c : Cluster) : List Part := c.foundation ++ c.superstructure

/-- The record has what its manifests need. -/
structure Complete (c : Cluster) : Prop where
  master : c.masters ≠ []
  api : c.authorities.api.isSome
  etcd : c.authorities.etcd.isSome
  frontProxy : c.authorities.frontProxy.isSome
  serviceAccount : c.authorities.serviceAccount.isSome

/-- The record once a group has been declared in it: a cluster that had settled is being updated. -/
def declaring (c : Cluster) (g : NodeGroup) : Cluster :=
  { c with
    status := if c.status.isTerminal then .updateInProgress else c.status
    nodeGroups := c.nodeGroups ++ [g] }

/-- Declaring a group does not make a cluster one that is being deleted. -/
theorem declaring_living {c : Cluster} (living : c.status.action ≠ .delete) (g : NodeGroup) :
    (c.declaring g).status.action ≠ .delete := by
  unfold declaring
  dsimp only
  split
  · decide
  · exact living

/-- A record to start from that has its authorities. -/
def completeSample (uuid : Uuid) : Cluster :=
  let pair : Option KeyPair := some { certificate := "certificate\n", privateKey := "key\n" }
  { sample uuid with
    authorities := { api := pair, etcd := pair, frontProxy := pair, serviceAccount := pair } }

theorem complete_completeSample (uuid : Uuid) : (completeSample uuid).Complete :=
  ⟨List.cons_ne_nil _ _, rfl, rfl, rfl, rfl⟩

end Cluster

namespace Deployment

/-- A deployment to try things on. -/
def sample : Deployment where
  scope := "magnum-system"
  identity := { authUrl := "https://keystone.example.com:5000/v3", region := "RegionOne" }

def applyPart (d : Deployment) (c : Cluster) (p : Part) : Operation Unit := d.apply p.1 c p.2

theorem provision_eq (d : Deployment) (c : Cluster) (g : NodeGroup) (sharedTemplate : Bool) :
    d.provision c g sharedTemplate = (g.parts sharedTemplate).forM (d.applyPart c) := by
  unfold provision NodeGroup.parts
  rw [List.forM_eq_forM, List.forM_cons]
  refine congrArg (d.apply .machineTemplate c g >>= ·) (funext ?_)
  intro _
  cases g.role <;> cases sharedTemplate <;>
    simp only [List.nil_append, List.cons_append, List.forM_cons, List.forM_nil, applyPart,
      bind_pure_unit, Bool.false_eq_true, ↓reduceIte]

theorem provisionAll_eq (d : Deployment) (c : Cluster) (sharedTemplate : Bool)
    (groups : List NodeGroup) :
    d.provisionAll c sharedTemplate groups =
      (NodeGroup.allParts sharedTemplate groups).forM (d.applyPart c) := by
  induction groups generalizing sharedTemplate with
  | nil => rfl
  | cons g rest ih =>
    rw [provisionAll, NodeGroup.allParts, List.forM_eq_forM, List.forM_append, provision_eq]
    exact congrArg (_ >>= ·) (funext fun _ => ih _)

theorem createCluster_eq (d : Deployment) (c : Cluster) :
    d.createCluster c = (do
      c.foundation.forM (d.applyPart c)
      d.applyCloudConfig c
      c.superstructure.forM (d.applyPart c)) := by
  have authorities : ResourceKind.authorities.forM (fun k => d.apply k c) =
      (ResourceKind.authorities.map fun k => ((k, none) : Part)).forM (d.applyPart c) := rfl
  unfold createCluster Cluster.foundation Cluster.superstructure
  rw [authorities]
  cases c.template.networkDriver.requiresAddon <;>
    simp only [provisionAll_eq, List.forM_eq_forM, List.forM_append, List.forM_cons,
      List.forM_nil, applyPart, bind_assoc, bind_pure_unit, Bool.false_eq_true, ↓reduceIte]

theorem addNodeGroup_eq (d : Deployment) (g : NodeGroup) :
    d.addNodeGroup g = (do
      let c ← get
      if c.status.action = .delete then
        throw (.unsupported "create_nodegroup on a deleted cluster")
      else
        set (c.declaring g)
        Operation.saveCluster (c.declaring g)
        d.createNodeGroup (c.declaring g) g : Pass Unit) := by
  unfold addNodeGroup
  refine congrArg (get >>= ·) (funext fun c => ?_)
  by_cases deleted : c.status.action = .delete
  · simp only [deleted, ↓reduceIte]
    rfl
  · simp only [deleted, ↓reduceIte]
    rfl

theorem bind_ok {α β : Type} {r : Result α} {f : α → Result β} {b : β} (h : r >>= f = .ok b) :
    ∃ a, r = .ok a ∧ f a = .ok b := by
  cases r with
  | error e => cases h
  | ok a => exact ⟨a, rfl, h⟩

theorem authority_ok {t : ObjectRef} {c : Cluster} {purpose : String} {pair : Option KeyPair}
    {m : Manifest} (h : authority t c purpose pair = .ok m) :
    ∃ k, pair = some k ∧ m = Manifest.authoritySecret t c k := by
  cases pair with
  | none => cases h
  | some k => cases h; exact ⟨k, rfl, rfl⟩

/-- The fields that manifests have beside the common ones. -/
def contentNames : List String := ["data", "spec", "stringData", "type"]

/-- A manifest goes to the object of its kind, and has no other fields. -/
theorem manifest_content {d : Deployment} {k : ResourceKind} {c : Cluster} {g : Option NodeGroup}
    {credential : Option Credential} {m : Manifest} (h : d.manifest k c g credential = .ok m) :
    d.target k c g = .ok m.target ∧ m.content.map (·.1) ⊆ contentNames := by
  have known (names : List String) (named : m.content.map (·.1) = names)
      (all : names ⊆ contentNames) : m.content.map (·.1) ⊆ contentNames := named ▸ all
  obtain ⟨t, ht, h⟩ := bind_ok h
  cases k with
  | sharedNamespace =>
    cases h
    exact ⟨ht, known [] rfl (by decide)⟩
  | controllerManagerConfig | cniConfig =>
    cases h
    exact ⟨ht, known ["data"] rfl (by decide)⟩
  | workerTemplate | openStackCluster =>
    cases h
    exact ⟨ht, known ["spec"] rfl (by decide)⟩
  | controllerManagerResourceSet | cniResourceSet | machineTemplate | controlPlane
  | machineDeployment | cluster =>
    obtain ⟨u, _, h⟩ := bind_ok h
    cases h
    exact ⟨ht, known ["spec"] rfl (by decide)⟩
  | cloudConfigSecret =>
    cases credential with
    | none => cases h
    | some credential =>
      cases h
      exact ⟨ht, known ["type", "stringData"] rfl (by decide)⟩
  | apiAuthority | etcdAuthority | frontProxyAuthority | serviceAccountAuthority =>
    obtain ⟨pair, _, rfl⟩ := authority_ok h
    exact ⟨ht, known ["type", "data"] rfl (by decide)⟩

/-- A manifest goes to the object of its kind, and leaves the status of that object alone. -/
theorem manifest_facts {d : Deployment} {k : ResourceKind} {c : Cluster} {g : Option NodeGroup}
    {credential : Option Credential} {m : Manifest} (h : d.manifest k c g credential = .ok m) :
    d.target k c g = .ok m.target ∧ m.Plain := by
  obtain ⟨target, names⟩ := manifest_content h
  exact ⟨target, Manifest.plain_of_names names (by decide)⟩

theorem apply_eq {d : Deployment} {k : ResourceKind} {c : Cluster} {g : Option NodeGroup}
    {credential : Option Credential} {m : Manifest} (h : d.manifest k c g credential = .ok m) :
    d.apply k c g credential = Operation.applyObject m := by
  unfold apply
  rw [h]
  rfl

/-- The secret with the cloud configuration. -/
def secretRef (d : Deployment) (c : Cluster) : ObjectRef where
  apiVersion := "v1"
  kind := "Secret"
  name := ResourceKind.cloudConfigName c
  scope := some d.scope

theorem target_secret (d : Deployment) (c : Cluster) (g : Option NodeGroup) :
    d.target .cloudConfigSecret c g = .ok (d.secretRef c) := rfl

/-- The object that stands for the whole cluster. -/
def clusterRef (d : Deployment) (c : Cluster) : ObjectRef where
  apiVersion := "cluster.x-k8s.io/v1beta1"
  kind := "Cluster"
  name := c.uuid.toString
  scope := some d.scope

theorem target_cluster (d : Deployment) (c : Cluster) (g : Option NodeGroup) :
    d.target .cluster c g = .ok (d.clusterRef c) := by
  unfold clusterRef
  rw [← String.append_empty (s := c.uuid.toString)]
  rfl

theorem target_kind {d : Deployment} {k : ResourceKind} {c : Cluster} {g : Option NodeGroup}
    {t : ObjectRef} (h : d.target k c g = .ok t) : t.kind = k.kind := by
  unfold target ResourceKind.ref at h
  cases hn : k.objectName d.scope c g with
  | error e => rw [hn] at h; cases h
  | ok name => rw [hn] at h; cases h; rfl

/-- No other part of a cluster is the secret with its cloud configuration. -/
theorem target_ne_secret {d : Deployment} {k : ResourceKind} {c : Cluster} {g : Option NodeGroup}
    {t : ObjectRef} (other : k ≠ .cloudConfigSecret) (h : d.target k c g = .ok t) :
    t ≠ d.secretRef c := by
  rintro rfl
  have kind : "Secret" = k.kind := target_kind h
  have suffix {s : String} (hs : s ≠ "-cloud-config")
      (hn : c.uuid.toString ++ s = c.uuid.toString ++ "-cloud-config") : False :=
    hs ((String.append_right_inj _).1 hn)
  cases k with
  | cloudConfigSecret => exact other rfl
  | apiAuthority | etcdAuthority | frontProxyAuthority | serviceAccountAuthority =>
    exact suffix (by decide) (congrArg ObjectRef.name (Except.ok.inj h))
  | _ => exact absurd kind (by decide)

/-- A kind of object that a node group gives its name to. -/
def Grouped : ResourceKind → Prop
  | .machineTemplate | .controlPlane | .machineDeployment => True
  | _ => False

theorem manifest_ok (d : Deployment) {c : Cluster} (complete : c.Complete) {p : Part}
    (other : p.1 ≠ .cloudConfigSecret) (named : Grouped p.1 → p.2.isSome) :
    ∃ m, d.manifest p.1 c p.2 none = .ok m := by
  obtain ⟨k, g⟩ := p
  cases k with
  | cloudConfigSecret => exact absurd rfl other
  | machineTemplate | controlPlane | machineDeployment =>
    obtain ⟨g, rfl⟩ := Option.isSome_iff_exists.1 (named trivial)
    exact ⟨_, rfl⟩
  | apiAuthority =>
    obtain ⟨pair, h⟩ := Option.isSome_iff_exists.1 complete.api
    exact ⟨_, by simp only [manifest, h]; rfl⟩
  | etcdAuthority =>
    obtain ⟨pair, h⟩ := Option.isSome_iff_exists.1 complete.etcd
    exact ⟨_, by simp only [manifest, h]; rfl⟩
  | frontProxyAuthority =>
    obtain ⟨pair, h⟩ := Option.isSome_iff_exists.1 complete.frontProxy
    exact ⟨_, by simp only [manifest, h]; rfl⟩
  | serviceAccountAuthority =>
    obtain ⟨pair, h⟩ := Option.isSome_iff_exists.1 complete.serviceAccount
    exact ⟨_, by simp only [manifest, h]; rfl⟩
  | cluster =>
    obtain ⟨master, rest, h⟩ := List.exists_cons_of_ne_nil complete.master
    exact ⟨_, by simp only [manifest, h]; rfl⟩
  | _ => exact ⟨_, rfl⟩

/-- A part is not the cloud configuration, and comes with the group that names it. -/
def Sound (p : Part) : Prop := p.1 ≠ .cloudConfigSecret ∧ (Grouped p.1 → p.2.isSome)

theorem sound_groupParts (g : NodeGroup) (sharedTemplate : Bool) :
    ∀ p ∈ g.parts sharedTemplate, Sound p := by
  unfold NodeGroup.parts
  cases g.role <;> cases sharedTemplate <;> simp [Sound, Grouped]

theorem sound_allParts (sharedTemplate : Bool) (groups : List NodeGroup) :
    ∀ p ∈ NodeGroup.allParts sharedTemplate groups, Sound p := by
  induction groups generalizing sharedTemplate with
  | nil => simp [NodeGroup.allParts]
  | cons g rest ih =>
    intro p hp
    rcases List.mem_append.1 hp with hp | hp
    · exact sound_groupParts g _ p hp
    · exact ih _ p hp

theorem sound_foundation (c : Cluster) : ∀ p ∈ c.foundation, Sound p := by
  unfold Cluster.foundation
  split <;> simp [Sound, Grouped]

theorem sound_superstructure (c : Cluster) : ∀ p ∈ c.superstructure, Sound p := by
  intro p hp
  simp only [Cluster.superstructure, List.mem_append] at hp
  rcases hp with (hp | hp) | hp
  · simp only [ResourceKind.authorities, List.map_cons, List.map_nil, List.mem_cons,
      List.not_mem_nil, or_false] at hp
    rcases hp with rfl | rfl | rfl | rfl <;> simp [Sound, Grouped]
  · exact sound_allParts _ _ p hp
  · simp only [List.mem_cons, List.not_mem_nil, or_false] at hp
    rcases hp with rfl | rfl <;> simp [Sound, Grouped]

/-- The manifests of parts, in their order. -/
def Drawn (d : Deployment) (c : Cluster) (parts : List Part) (manifests : List Manifest) : Prop :=
  parts.map (fun p => d.manifest p.1 c p.2 none) = manifests.map .ok

theorem drawn_ok (d : Deployment) {c : Cluster} (complete : c.Complete) {parts : List Part}
    (sound : ∀ p ∈ parts, Sound p) : ∃ manifests, Drawn d c parts manifests := by
  induction parts with
  | nil => exact ⟨[], rfl⟩
  | cons p rest ih =>
    obtain ⟨other, named⟩ := sound p List.mem_cons_self
    obtain ⟨m, hm⟩ := manifest_ok d complete other named
    obtain ⟨ms, hms⟩ := ih fun q hq => sound q (List.mem_cons_of_mem p hq)
    exact ⟨m :: ms, List.cons_eq_cons.2 ⟨hm, hms⟩⟩

theorem Drawn.exists_part {d : Deployment} {c : Cluster} {parts : List Part}
    {manifests : List Manifest} (h : Drawn d c parts manifests) {m : Manifest}
    (member : m ∈ manifests) : ∃ p ∈ parts, d.manifest p.1 c p.2 none = .ok m := by
  have : .ok m ∈ parts.map fun p => d.manifest p.1 c p.2 none :=
    h ▸ List.mem_map_of_mem member
  exact List.mem_map.1 this

end Deployment

namespace World

open Operation

variable {ρ : Type} {faults : Error → Prop} {k : Keeper ρ}
  {G : ServiceRequest → World ρ → Prop} {J : World ρ → Prop} {E : Error → World ρ → Prop}

/-- Applying parts: each applied manifest keeps `J`, and success means that all are applied. -/
theorem keeps_applyParts {d : Deployment} {c : Cluster} {parts : List Part}
    {manifests : List Manifest} (drawn : d.Drawn c parts manifests) {P : Unit → World ρ → Prop}
    {w : World ρ} (fails : ∀ e s, faults e → J s → E e s)
    (round : ∀ m ∈ manifests, ∀ s, J s → G (.apply m) s ∧ J (s.place m))
    (before : J w) (done : P () (manifests.foldl place w)) :
    Keeps (MayAnswer faults k) (Admits G J) E P (parts.forM (d.applyPart c)) w := by
  induction parts generalizing manifests w with
  | nil =>
    cases manifests with
    | nil => exact done
    | cons m ms => cases drawn
  | cons p rest ih =>
    cases manifests with
    | nil => cases drawn
    | cons m ms =>
      obtain ⟨hm, hms⟩ := List.cons.inj drawn
      obtain ⟨admitted, after⟩ := round m List.mem_cons_self w before
      rw [List.forM, Deployment.applyPart, Deployment.apply_eq hm, keeps_bind]
      exact keeps_applyObject fails before admitted after
        (ih hms (fun n hn => round n (List.mem_cons_of_mem m hn)) after done)

/-- The last manifest that goes to an object makes its body. -/
theorem object?_foldl_place {manifests : List Manifest} (plain : ∀ m ∈ manifests, m.Plain)
    (w : World ρ) (t : ObjectRef) :
    (manifests.foldl place w).object? t =
      match manifests.reverse.find? (·.target = t) with
      | some m => some (m.bodyWith (w.status? t))
      | none => w.object? t := by
  induction manifests generalizing w with
  | nil => rfl
  | cons m rest ih =>
    have first := plain m List.mem_cons_self
    rw [List.foldl_cons, ih (fun n hn => plain n (List.mem_cons_of_mem m hn)),
      status?_place first, List.reverse_cons, List.find?_append]
    cases rest.reverse.find? (·.target = t) with
    | some n => rfl
    | none =>
      by_cases h : m.target = t
      · subst h
        simp [object?_place_self]
      · simp [h, object?_place_of_ne (Ne.symm h)]

end World

end ClusterLifecycle
