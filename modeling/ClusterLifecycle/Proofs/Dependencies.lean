import ClusterLifecycle.Proofs.Histories
import ClusterLifecycle.Proofs.Sharing

/-!
What stands where an object is applied.

* `Manifest.dependencies`: the objects that a body refers to, by the names that are written in it;
* `Cluster.needs`: the parts that these are, by the names under which they are applied;
* `Ordered`: parts in an order in which each one comes after those that it refers to;
* `dependencies_exist`: whatever an object refers to is there when it is applied, and stays there.
-/

namespace ClusterLifecycle

namespace Manifest

/-- The objects that a field refers to. -/
def dependency (scope : Option String) : String × Json → List ObjectRef
  | ("controlPlaneRef", j) => (j.referent? scope).toList
  | ("resources", .array items) => items.filterMap (·.referent? scope)
  | field => (reference? scope field).toList

/-- All objects that the body refers to, those too that a resource set pushes and that a cluster is
made of. -/
def dependencies (m : Manifest) : List ObjectRef :=
  m.toJson.everyField.flatMap (dependency m.target.scope)

end Manifest

namespace Cluster

/-- The parts whose objects the object of a part refers to. -/
def needs (c : Cluster) : Part → List Part
  | (.controllerManagerResourceSet, _) => [(.controllerManagerConfig, none)]
  | (.cniResourceSet, _) => [(.cniConfig, none)]
  | (.machineTemplate, _) | (.openStackCluster, _) => [(.cloudConfigSecret, none)]
  | (.controlPlane, g) => [(.machineTemplate, g), (.cloudConfigSecret, none)]
  | (.machineDeployment, g) => [(.workerTemplate, none), (.machineTemplate, g)]
  | (.cluster, _) =>
    (c.masters.head?.toList.map fun g => (.controlPlane, some g)) ++ [(.openStackCluster, none)]
  | _ => []

/-- Each part comes after those that it needs, where the first ones are there before. -/
def Ordered (c : Cluster) : List Part → List Part → Prop
  | _, [] => True
  | before, p :: rest => c.needs p ⊆ before ∧ c.Ordered (p :: before) rest

variable {c : Cluster} {before : List Part}

theorem ordered_append (first second : List Part) :
    c.Ordered before (first ++ second) ↔
      c.Ordered before first ∧ c.Ordered (first.reverse ++ before) second := by
  induction first generalizing before with
  | nil => simp [Ordered]
  | cons p rest ih =>
    simp only [List.cons_append, Ordered, ih, List.reverse_cons, List.append_assoc,
      List.nil_append, and_assoc]

/-- Parts that need nothing come in any order. -/
theorem ordered_of_needless {parts : List Part} (needless : ∀ p ∈ parts, c.needs p = []) :
    c.Ordered before parts := by
  induction parts generalizing before with
  | nil => trivial
  | cons p rest ih =>
    constructor
    · rw [needless p List.mem_cons_self]
      exact List.nil_subset _
    · exact ih fun q hq => needless q (List.mem_cons_of_mem p hq)

theorem ordered_foundation (c : Cluster) : c.Ordered [] c.foundation := by
  unfold foundation
  cases c.template.networkDriver.requiresAddon <;> simp [Ordered, needs]

/-- The parts of groups need the secret, and those of workers the template that is applied on
request or was there before. -/
theorem ordered_groupParts {g : NodeGroup} {sharedTemplate : Bool}
    (secret : (.cloudConfigSecret, none) ∈ before)
    (template : sharedTemplate = true ∨ g.role = .master ∨ (.workerTemplate, none) ∈ before) :
    c.Ordered before (g.parts sharedTemplate) := by
  unfold NodeGroup.parts
  cases role : g.role <;> cases sharedTemplate <;> simp_all [Ordered, needs]

theorem ordered_allParts {groups : List NodeGroup} {sharedTemplate : Bool}
    (secret : (.cloudConfigSecret, none) ∈ before)
    (template : sharedTemplate = true ∨ (.workerTemplate, none) ∈ before) :
    c.Ordered before (NodeGroup.allParts sharedTemplate groups) := by
  induction groups generalizing sharedTemplate before with
  | nil => trivial
  | cons g rest ih =>
    rw [NodeGroup.allParts, ordered_append]
    cases role : g.role with
    | master =>
      constructor
      · exact ordered_groupParts secret (.inr (.inl role))
      · apply ih (List.mem_append_right _ secret)
        exact template.imp (by simp [NodeGroup.isMaster, role]) (List.mem_append_right _)
    | worker =>
      constructor
      · apply ordered_groupParts secret
        exact template.imp (by simp [NodeGroup.isMaster, role]) .inr
      · -- With the first group of workers the template is there.
        apply ih (List.mem_append_right _ secret)
        refine .inr (List.mem_append.2 (template.imp ?_ id))
        intro shared
        simp [NodeGroup.parts, NodeGroup.isMaster, role, shared]

theorem controlPlane_mem_allParts {groups : List NodeGroup} {g : NodeGroup}
    (sharedTemplate : Bool) (member : g ∈ groups) (role : g.role = .master) :
    (.controlPlane, some g) ∈ NodeGroup.allParts sharedTemplate groups := by
  induction groups generalizing sharedTemplate with
  | nil => cases member
  | cons h rest ih =>
    rw [NodeGroup.allParts, List.mem_append]
    rcases List.mem_cons.1 member with rfl | later
    · left
      simp [NodeGroup.parts, role]
    · right
      exact ih _ later

theorem ordered_superstructure (secret : (.cloudConfigSecret, none) ∈ before) :
    c.Ordered before c.superstructure := by
  unfold superstructure
  rw [ordered_append, ordered_append, and_assoc]
  refine ⟨?authorities, ?groups, ?frame⟩
  case authorities => exact ordered_of_needless (by simp [ResourceKind.authorities, needs])
  case groups => exact ordered_allParts (List.mem_append_right _ secret) (.inl rfl)
  case frame =>
    refine ⟨?_, ?_, trivial⟩
    · simp [needs, secret]
    · intro p need
      rcases List.mem_append.1 need with plane | own
      · obtain ⟨g, first, rfl⟩ := List.mem_map.1 plane
        have master : g ∈ c.masters := List.mem_of_head? (Option.mem_toList.1 first)
        obtain ⟨member, role⟩ := List.mem_filter.1 master
        have there := controlPlane_mem_allParts true member (of_decide_eq_true role)
        simp [there]
      · simp [List.mem_singleton.1 own]

end Cluster

namespace Deployment

variable {d : Deployment} {c : Cluster} {kind : ResourceKind} {g : Option NodeGroup}
  {credential : Option Credential} {m : Manifest}

theorem target_openStackCluster (d : Deployment) (c : Cluster) (g : Option NodeGroup) :
    d.target .openStackCluster c g =
      .ok { apiVersion := "infrastructure.cluster.x-k8s.io/v1alpha5", kind := "OpenStackCluster"
            name := c.uuid.toString, scope := some d.scope } := by
  rw [← String.append_empty (s := c.uuid.toString)]
  rfl

/-- The names in a body are those under which the parts are applied that it needs. -/
theorem dependencies_eq (drawn : d.manifest kind c g credential = .ok m) :
    m.dependencies.map .ok = (c.needs (kind, g)).map fun p => d.target p.1 c p.2 := by
  obtain ⟨t, target, drawn⟩ := bind_ok drawn
  cases kind with
  | sharedNamespace | controllerManagerConfig | workerTemplate =>
    cases target
    cases drawn
    rfl
  | cniConfig =>
    cases target
    cases drawn
    unfold Manifest.cniConfig Manifest.configMap Manifest.dependencies
    cases c.template.networkDriver <;> rfl
  | controllerManagerResourceSet | cniResourceSet =>
    cases target
    obtain ⟨config, named, drawn⟩ := bind_ok drawn
    cases named
    cases drawn
    rfl
  | cloudConfigSecret =>
    cases credential with
    | none => cases drawn
    | some credential =>
      cases target
      cases drawn
      rfl
  | apiAuthority | etcdAuthority | frontProxyAuthority | serviceAccountAuthority =>
    cases target
    obtain ⟨pair, _, rfl⟩ := authority_ok drawn
    rfl
  | machineTemplate =>
    obtain ⟨group, grouped, drawn⟩ := bind_ok drawn
    cases g with
    | none => cases grouped
    | some g =>
      cases grouped
      cases target
      cases drawn
      unfold Manifest.machineTemplate Manifest.dependencies
      cases c.keypair <;> rfl
  | controlPlane =>
    obtain ⟨group, grouped, drawn⟩ := bind_ok drawn
    cases g with
    | none => cases grouped
    | some g =>
      cases grouped
      cases target
      cases drawn
      rfl
  | machineDeployment =>
    obtain ⟨group, grouped, drawn⟩ := bind_ok drawn
    cases g with
    | none => cases grouped
    | some g =>
      cases grouped
      cases target
      cases drawn
      simp only [Cluster.needs, List.map_cons, List.map_nil, target_workerTemplate]
      rfl
  | openStackCluster =>
    cases target
    cases drawn
    rfl
  | cluster =>
    cases target
    obtain ⟨master, first, drawn⟩ := bind_ok drawn
    cases drawn
    cases masters : c.masters.head? with
    | none =>
      rw [masters] at first
      cases first
    | some g =>
      rw [masters] at first
      cases first
      simp only [Cluster.needs, masters, Option.toList_some, List.map_cons, List.map_nil,
        List.cons_append, List.nil_append, target_openStackCluster]
      rfl

theorem mem_dependencies (drawn : d.manifest kind c g credential = .ok m) {r : ObjectRef} :
    r ∈ m.dependencies ↔ d.Among c (c.needs (kind, g)) r := by
  rw [Among, ← List.mem_map, ← dependencies_eq drawn]
  simp

end Deployment

namespace World

open Operation Program

variable {ρ : Type} {faults : Error → Prop} {k : Keeper ρ} {d : Deployment} {c : Cluster}
  {before : List Part} {w w' s : World ρ}

/-- Every object that the manifest refers to is there. -/
def Grounds (w : World ρ) (m : Manifest) : Prop := ∀ r ∈ m.dependencies, (w.object? r).isSome

/-- The objects of the parts are there. -/
def Stand (d : Deployment) (c : Cluster) (parts : List Part) (w : World ρ) : Prop :=
  ∀ t, d.Among c parts t → (w.object? t).isSome

/-- All objects that were there are there. -/
def Grown (w w' : World ρ) : Prop := ∀ t, (w.object? t).isSome → (w'.object? t).isSome

theorem Grown.rfl : Grown w w := fun _ there => there

theorem Grown.grounds {m : Manifest} (h : Grown w w') (grounded : w.Grounds m) : w'.Grounds m :=
  fun r refers => h r (grounded r refers)

theorem Stand.grown {parts : List Part} (h : Stand d c parts w) (grown : Grown w w') :
    Stand d c parts w' :=
  fun t among => grown t (h t among)

theorem grown_place (w : World ρ) (m : Manifest) : Grown w (w.place m) := by
  intro t there
  by_cases same : t = m.target
  · subst same
    simp [object?_place_self]
  · rwa [object?_place_of_ne same]

theorem Stand.place {kind : ResourceKind} {g : Option NodeGroup} {m : Manifest}
    (h : Stand d c before w) (target : d.target kind c g = .ok m.target) :
    Stand d c ((kind, g) :: before) (w.place m) := by
  rintro t ⟨p, member, named⟩
  rcases List.mem_cons.1 member with rfl | earlier
  · cases target.symm.trans named
    simp [object?_place_self]
  · exact grown_place w m t (h t ⟨p, earlier, named⟩)

/-- What is applied refers to nothing that is missing, and no object goes. -/
def Grounded : Conduct services (World ρ) :=
  fun q w _ w' => (∀ m, q = .apply m → w.Grounds m) ∧ Grown w w'

/-- Whatever fails, nothing that is applied refers to what is missing. -/
abbrev Builds {α : Type} (faults : Error → Prop) (k : Keeper ρ) (P : α → World ρ → Prop)
    (op : Operation α) (w : World ρ) : Prop :=
  Keeps (MayAnswer faults k) Grounded (fun _ _ => True) P op w

theorem builds_apply {kind : ResourceKind} {g : Option NodeGroup} {credential : Option Credential}
    (needs : c.needs (kind, g) ⊆ before) (stand : Stand d c before w) :
    Builds faults k (fun _ s => Stand d c ((kind, g) :: before) s) (d.apply kind c g credential)
      w := by
  unfold Deployment.apply
  rw [Builds, keeps_bind, keeps_result]
  cases drawn : d.manifest kind c g credential with
  | error e => trivial
  | ok m =>
    have grounds : ∀ n, ServiceRequest.apply m = .apply n → w.Grounds n := by
      rintro n ⟨⟩ r refers
      obtain ⟨p, need, target⟩ := (Deployment.mem_dependencies drawn).1 refers
      exact stand r ⟨p, needs need, target⟩
    have placed := grown_place w m
    refine ensures_ask ⟨⟨grounds, placed⟩, ?_⟩ ?_ ?_
    · exact stand.place (Deployment.manifest_facts drawn).1
    · exact fun e _ => ⟨⟨grounds, .rfl⟩, trivial⟩
    · exact fun e _ => ⟨⟨grounds, placed⟩, trivial⟩

theorem builds_applyParts {parts : List Part} (ordered : c.Ordered before parts)
    (stand : Stand d c before w) :
    Builds faults k (fun _ s => Stand d c (parts.reverse ++ before) s)
      (parts.forM (d.applyPart c)) w := by
  induction parts generalizing before w with
  | nil => exact stand
  | cons p rest ih =>
    rw [List.forM, List.reverse_cons, List.append_assoc]
    exact (builds_apply ordered.1 stand).bind fun _ s after => ih ordered.2 after

/-- A secret that is seen is there, whatever fails. -/
theorem builds_isPresent (w : World ρ) :
    Builds faults k (fun present s => s = w ∧ (present = true → (w.object? (d.secretRef c)).isSome))
      (d.isPresent .cloudConfigSecret c) w := by
  have quiet : ∀ m, ServiceRequest.get (d.secretRef c) = .apply m → w.Grounds m := nofun
  have unseen (e : Error) {P : Prop} :
      if e.isNotFound = true then w = w ∧ (false = true → P) else True := by
    split
    · exact ⟨rfl, nofun⟩
    · trivial
  unfold Deployment.isPresent Deployment.fetch
  rw [Builds, keeps_bind, keeps_orAbsent, keeps_bind, keeps_result, d.target_secret c none]
  dsimp only [Ends]
  rw [keeps_bind]
  refine ensures_ask ⟨⟨quiet, .rfl⟩, ?_⟩ (fun e _ => ⟨⟨quiet, .rfl⟩, unseen e⟩)
    fun e _ => ⟨⟨quiet, .rfl⟩, unseen e⟩
  change Ends _ _ (notFound (d.secretRef c).kind (d.secretRef c).name (w.object? (d.secretRef c))) w
  cases there : w.object? (d.secretRef c) with
  | none => exact unseen (.notFound (d.secretRef c).kind (d.secretRef c).name)
  | some body => exact ⟨rfl, fun _ => rfl⟩

theorem builds_applyCloudConfig (stand : Stand d c before w) :
    Builds faults k (fun _ s => Stand d c ((.cloudConfigSecret, none) :: before) s)
      (d.applyCloudConfig c) w := by
  unfold Deployment.applyCloudConfig
  refine (builds_isPresent w).bind ?_
  rintro present _ ⟨rfl, seen⟩
  cases present with
  | true =>
    rintro t ⟨p, member, named⟩
    rcases List.mem_cons.1 member with rfl | earlier
    · cases named
      exact seen rfl
    · exact stand t ⟨p, earlier, named⟩
  | false =>
    have issues := Credential.only_issue (G := fun q => ¬LeavesCredentials q) c.userId c.uuid id
      (fun _ => id) fun _ => id
    have issued := issues.keeps (R := MayAnswer faults k) (T := Grounded) (J := Stand d c before) ?_
      stand
    · refine (issued.imp (fun _ _ _ => trivial) fun _ _ h => h).bind ?_
      rintro credential s ⟨-, stand⟩
      exact builds_apply (List.nil_subset _) stand
    · intro q s a s' credential stand replied
      have objects := objects_mayAnswer credential replied
      have grown : Grown s s' := by
        intro t there
        rwa [object?, objects]
      refine ⟨⟨?_, grown⟩, stand.grown grown⟩
      rintro m rfl
      exact absurd trivial credential

theorem builds_createCluster (w : World ρ) :
    Builds faults k (fun _ _ => True) (d.createCluster c) w := by
  rw [Deployment.createCluster_eq]
  have nothing : Stand d c [] w := by
    rintro t ⟨p, member, -⟩
    cases member
  refine (builds_applyParts c.ordered_foundation nothing).bind fun _ s founded => ?_
  refine (builds_applyCloudConfig founded).bind fun _ s' configured => ?_
  exact (builds_applyParts (Cluster.ordered_superstructure List.mem_cons_self) configured).imp_ok
    fun _ _ _ => trivial

/-- Whenever the creation of a cluster comes to apply an object, all that its body refers to is
there, and however far it has come, nothing that it has applied refers to what is missing. What a
body refers to is what is applied as its part, whatever the names in the record. -/
theorem dependencies_exist (faults : Error → Prop) (k : Keeper ρ) (d : Deployment) (c : Cluster)
    (w : World ρ) :
    (∀ m t, Asks (MayAnswer faults k) (d.createCluster c).run w (.apply m) t → t.Grounds m) ∧
    (∀ p t log, Reaches (Logged (MayAnswer faults k)) (d.createCluster c).run (w, []) p (t, log) →
      ∀ m a, (⟨.apply m, a⟩ : Exchange services) ∈ log → t.Grounds m) ∧
    ∀ kind g credential m, d.manifest kind c g credential = .ok m →
      m.dependencies.map .ok = (c.needs (kind, g)).map fun p => d.target p.1 c p.2 := by
  have builds : Builds faults k (fun _ _ => True) (d.createCluster c) w := builds_createCluster w
  refine ⟨?_, ?_, fun kind g credential m drawn => Deployment.dependencies_eq drawn⟩
  · intro m t asks
    exact (Ensures.asks builds asks .answered).1 m rfl
  · intro p t log reached
    have logged := Ensures.logged builds []
    refine logged.carried (J := fun s : World ρ × Log services =>
      ∀ m a, (⟨.apply m, a⟩ : Exchange services) ∈ s.2 → s.1.Grounds m) ?_ nofun reached
    rintro q ⟨s, before⟩ a ⟨s', after⟩ ⟨⟨grounds, grown⟩, rfl⟩ earlier m b member
    rcases List.mem_append.1 member with old | new
    · exact grown.grounds (earlier m b old)
    · cases List.mem_singleton.1 new
      exact grown.grounds (grounds m rfl)

/-- Where the creation comes to apply the cluster itself, the control plane of its first master and
the cluster of the cloud are there. -/
theorem dependencies_exist_sample :
    let d := Deployment.sample
    let c := Cluster.completeSample .nil
    let w : World Records := { records := [] }
    ∃ m t plane cloud, Asks (MayAnswer Interruption .memory) (d.createCluster c).run w (.apply m) t ∧
      m.target = d.clusterRef c ∧ m.dependencies = [plane, cloud] ∧
      (t.object? plane).isSome ∧ (t.object? cloud).isSome := by
  intro d c w
  let k := Keeper.memory
  have complete := Cluster.complete_completeSample .nil
  have fresh : Fresh d c w := ⟨rfl, rfl, rfl⟩
  obtain ⟨_, drawn₁⟩ := Deployment.drawn_ok d complete (Deployment.sound_foundation c)
  obtain ⟨_, drawn₂⟩ := Deployment.drawn_ok d complete (Deployment.sound_superstructure c)
  obtain ⟨s, creates, -⟩ := (underway_of_fresh fresh).run_ok (k := k) drawn₁ drawn₂
  -- The cluster is the last to be applied.
  have last : c.superstructure = c.superstructure.dropLast ++ [(.cluster, none)] := by decide
  obtain ⟨m, drawn⟩ : ∃ m, d.manifest .cluster c none none = .ok m := ⟨_, rfl⟩
  rw [Deployment.createCluster_eq, last, List.forM_eq_forM, List.forM_append,
    ← List.forM_eq_forM, run_bind_ok] at creates
  obtain ⟨_, w₁, founds, creates⟩ := creates
  obtain ⟨_, w₂, configures, creates⟩ := run_bind_ok.1 creates
  obtain ⟨_, w₃, builds, -⟩ := run_bind_ok.1 creates
  have asks : Asks (MayAnswer Interruption k) (d.createCluster c).run w (.apply m) w₃ := by
    rw [Deployment.createCluster_eq, last, List.forM_eq_forM, List.forM_append,
      List.forM_cons, Deployment.applyPart, Deployment.apply_eq drawn]
    exact ⟨_, reaches_ok (reaches_of_run founds) (reaches_ok (reaches_of_run configures)
      (reaches_ok (reaches_of_run builds) (.here _ _)))⟩
  obtain ⟨grounds, -, written⟩ := dependencies_exist Interruption k d c w
  obtain ⟨plane, first⟩ : ∃ t, d.target .controlPlane c c.masters.head? = .ok t := ⟨_, rfl⟩
  obtain ⟨cloud, second⟩ : ∃ t, d.target .openStackCluster c none = .ok t := ⟨_, rfl⟩
  have named : m.dependencies.map .ok = ([plane, cloud].map .ok : List (Result ObjectRef)) := by
    rw [List.map_cons, List.map_cons, List.map_nil, ← first, ← second]
    exact written .cluster none none m drawn
  have refers := (List.map_inj_right fun _ _ => Except.ok.inj).1 named
  refine ⟨m, w₃, plane, cloud, asks, ?_, refers, ?_, ?_⟩
  · exact Except.ok.inj ((Deployment.manifest_facts drawn).1.symm.trans (d.target_cluster c none))
  · exact grounds m w₃ asks plane (by simp [refers])
  · exact grounds m w₃ asks cloud (by simp [refers])

end World

end ClusterLifecycle
