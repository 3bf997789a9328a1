import ClusterLifecycle.Proofs.Convergence
import ClusterLifecycle.Proofs.References
import ClusterLifecycle.Proofs.Removal
import ClusterLifecycle.Proofs.Requests
import ClusterLifecycle.Proofs.Teardown

/-!
What the groups of a cluster share, and what becomes of it when groups come and go.

* `Joined`, `Parted`: the objects that are there once parts have been applied, or deleted;
* `Managed`: a cluster that has been created, whose groups have been added and deleted since;
* `resolves_iff`: whatever a remaining group refers to is there, but for the template that workers
  share: the deletion of any group of workers takes it from all the others.
-/

namespace ClusterLifecycle

namespace NodeGroup

theorem machineTemplate_mem_allParts {groups : List NodeGroup} {g : NodeGroup}
    (sharedTemplate : Bool) (member : g ∈ groups) :
    (.machineTemplate, some g) ∈ allParts sharedTemplate groups := by
  induction groups generalizing sharedTemplate with
  | nil => cases member
  | cons h rest ih =>
    rcases List.mem_cons.1 member with rfl | later
    · exact List.mem_append_left _ List.mem_cons_self
    · exact List.mem_append_right _ (ih _ later)

/-- The shared template is applied with the first group of workers, if there is one. -/
theorem workerTemplate_mem_allParts {groups : List NodeGroup} {g : NodeGroup}
    (member : g ∈ groups) (role : g.role = .worker) :
    (.workerTemplate, none) ∈ allParts true groups := by
  induction groups with
  | nil => cases member
  | cons h rest ih =>
    rw [allParts]
    cases first : h.role with
    | worker =>
      refine List.mem_append_left _ ?_
      simp [parts, isMaster, first]
    | master =>
      refine List.mem_append_right _ ?_
      rcases List.mem_cons.1 member with rfl | later
      · rw [first] at role
        cases role
      · simpa [isMaster, first] using ih later

end NodeGroup

namespace Deployment

variable {d : Deployment} {c : Cluster} {g g' : NodeGroup}

theorem not_among_secret (g : NodeGroup) : ¬d.Among c (g.parts true) (d.secretRef c) := by
  rintro ⟨p, own, target⟩
  exact target_ne_secret (sound_groupParts g true p own).1 target rfl

theorem among_machineTemplate :
    d.Among c (g.parts true) (d.machineTemplateRef c g') ↔ g'.name = g.name := by
  constructor
  · rintro ⟨p, own, target⟩
    obtain ⟨kind, name⟩ := target_injective (d.target_machineTemplate c g') target
    have names : some g'.name = p.2.map (·.name) := name trivial
    rcases key_groupParts own with named | ⟨-, template⟩
    · exact Option.some_inj.1 (names.trans named)
    · have other : p.1 = .workerTemplate := congrArg Prod.fst template
      cases kind.trans other
  · intro same
    refine ⟨(.machineTemplate, some g), List.mem_cons_self, ?_⟩
    rw [d.target_machineTemplate c g, machineTemplateRef, machineTemplateRef,
      ResourceKind.groupObjectName, ResourceKind.groupObjectName, same]

theorem among_workerTemplate :
    d.Among c (g.parts true) (d.workerTemplateRef c) ↔ g.role = .worker := by
  constructor
  · rintro ⟨p, own, target⟩
    obtain ⟨kind, -⟩ := target_injective (d.target_workerTemplate c none) target
    cases role : g.role with
    | worker => rfl
    | master =>
      simp only [NodeGroup.parts, role, List.mem_cons, List.not_mem_nil, or_false] at own
      rcases own with rfl | rfl <;> cases kind
  · intro role
    refine ⟨(.workerTemplate, none), ?_, d.target_workerTemplate c none⟩
    simp [NodeGroup.parts, role]

end Deployment

namespace World

open Operation Program

variable {ρ : Type} {k : Keeper ρ} {d : Deployment} {c c' : Cluster} {w w' s : World ρ}

/-- Beside the objects of `w` those of the parts are there. -/
def Joined (d : Deployment) (c : Cluster) (parts : List Part) (w s : World ρ) : Prop :=
  ∀ t, (s.object? t).isSome ↔ (w.object? t).isSome ∨ d.Among c parts t

/-- Of the objects of `w` all are there but those of the parts. -/
def Parted (d : Deployment) (c : Cluster) (parts : List Part) (w s : World ρ) : Prop :=
  ∀ t, (s.object? t).isSome ↔ (w.object? t).isSome ∧ ¬d.Among c parts t

theorem Joined.trans {first second : List Part} (h : Joined d c first w w')
    (h' : Joined d c second w' s) : Joined d c (first ++ second) w s := by
  intro t
  rw [h' t, h t, or_assoc]
  simp only [Deployment.Among, List.mem_append, or_and_right, exists_or]

theorem joined_place {kind : ResourceKind} {g : Option NodeGroup} {m : Manifest}
    (target : d.target kind c g = .ok m.target) (w : World ρ) :
    Joined d c [(kind, g)] w (w.place m) := by
  intro t
  have among : d.Among c [(kind, g)] t ↔ t = m.target := by
    simp only [Deployment.Among, List.mem_singleton, exists_eq_left, target, Except.ok.injEq]
    exact eq_comm
  rw [among]
  by_cases same : t = m.target
  · subst same
    simp [object?_place_self]
  · simp [object?_place_of_ne same, same]

/-- Where an operation has nothing to keep when it fails. -/
abbrev Yields {α : Type} (k : Keeper ρ) (P : α → World ρ → Prop) (op : Operation α)
    (w : World ρ) : Prop :=
  Keeps (MayAnswer Interruption k) (Admits Any fun _ => True) (fun _ _ => True) P op w

theorem yields_apply {kind : ResourceKind} {g : Option NodeGroup}
    {credential : Option Credential} (w : World ρ) :
    Yields k (fun _ s => Joined d c [(kind, g)] w s) (d.apply kind c g credential) w := by
  unfold Deployment.apply
  rw [Yields, keeps_bind, keeps_result]
  cases drawn : d.manifest kind c g credential with
  | error e => trivial
  | ok m =>
    exact keeps_applyObject (fun _ _ _ _ => trivial) trivial trivial trivial
      (joined_place (Deployment.manifest_facts drawn).1 w)

theorem yields_applyParts (parts : List Part) (w : World ρ) :
    Yields k (fun _ s => Joined d c parts w s) (parts.forM (d.applyPart c)) w := by
  induction parts generalizing w with
  | nil => exact fun t => by simp [Deployment.Among]
  | cons p rest ih =>
    rw [List.forM]
    refine (yields_apply w).bind fun _ s joined => ?_
    exact (ih s).imp_ok fun _ _ later => joined.trans later

theorem objects_mayAnswer {faults : Error → Prop} {q : ServiceRequest} {a : q.Answer}
    (credential : ¬LeavesCredentials q) (h : MayAnswer faults k q w a w') :
    w'.objects = w.objects := by
  have answered : (w.answer k q).2.objects = w.objects := by
    cases q with
    | findCredential | createCredential => rfl
    | deleteCredential user id =>
      rw [answer]
      split <;> rfl
    | _ => exact absurd trivial credential
  cases h with
  | answered | lost => exact answered
  | refused => rfl

/-- Whatever becomes of the credential, the secret is there. -/
theorem yields_applyCloudConfig (w : World ρ) :
    Yields k (fun _ s => Joined d c [(.cloudConfigSecret, none)] w s) (d.applyCloudConfig c) w := by
  unfold Deployment.applyCloudConfig
  rw [Yields, keeps_bind]
  refine keeps_isPresent (fun _ h => h) (fun _ _ _ _ => trivial) (d.target_secret c none)
    (fun _ => trivial) trivial ?_
  cases present : (w.object? (d.secretRef c)).isSome with
  | true =>
    intro t
    refine ⟨.inl, ?_⟩
    rintro (there | ⟨p, is, target⟩)
    · exact there
    · rw [List.mem_singleton.1 is] at target
      cases target
      exact present
  | false =>
    have issues := Credential.only_issue (G := fun q => ¬LeavesCredentials q) c.userId c.uuid id
      (fun _ => id) fun _ => id
    have issued := issues.keeps (R := MayAnswer Interruption k) (T := Admits Any fun _ => True)
      (J := fun s : World ρ => s.objects = w.objects)
      (fun q s a s' credential same replied =>
        ⟨⟨trivial, trivial⟩, (objects_mayAnswer credential replied).trans same⟩) rfl
    refine (issued.imp (fun _ _ _ => trivial) fun _ _ h => h).bind ?_
    rintro credential s ⟨-, same⟩
    refine (yields_apply s).imp_ok fun _ s' joined t => ?_
    rw [joined t, object?, object?, same]

theorem yields_createCluster (w : World ρ) :
    Yields k (fun _ s => Joined d c ((c.foundation ++ [(.cloudConfigSecret, none)]) ++
      c.superstructure) w s) (d.createCluster c) w := by
  rw [Deployment.createCluster_eq]
  refine (yields_applyParts c.foundation w).bind fun _ s founded => ?_
  refine (yields_applyCloudConfig s).bind fun _ s' configured => ?_
  refine (yields_applyParts c.superstructure s').imp_ok ?_
  exact fun _ _ built => (founded.trans configured).trans built

/-- A group that has been added is in the record, and its objects are there. -/
theorem yields_addNodeGroup (g : NodeGroup) (w : World ρ) :
    Pass.Keeps (MayAnswer Interruption k) (Admits Any fun _ => True) (fun _ _ _ => True)
      (fun _ c' s => c' = c.declaring g ∧ Joined d (c.declaring g) (g.parts true) w s)
      (d.addNodeGroup g) c w := by
  rw [Deployment.addNodeGroup_eq, Pass.keeps_bind, Pass.keeps_get]
  split
  · trivial
  · rw [Pass.keeps_bind, Pass.keeps_set, Pass.keeps_bind, Pass.keeps_lift]
    refine keeps_saveCluster (fun _ _ _ _ => trivial) trivial trivial trivial ?_
    cases (k.save (c.declaring g) w.records).1 with
    | error e => trivial
    | ok u =>
      have provisions := yields_applyParts (k := k) (d := d) (c := c.declaring g) (g.parts true)
        { w with records := (k.save (c.declaring g) w.records).2 }
      rw [← Deployment.provision_eq] at provisions
      change Pass.Keeps _ _ _ _ (liftM (d.provision (c.declaring g) g true)) _ _
      rw [Pass.keeps_lift]
      exact provisions.imp_ok fun _ _ joined => ⟨rfl, joined⟩

theorem yields_deleteNodeGroup (g : NodeGroup) (w : World ρ) :
    Yields k (fun _ s => Parted d c (g.parts true) w s) (d.deleteNodeGroup c g) w := by
  have same (t : ObjectRef) : d.Among c (g.parts true).reverse t ↔ d.Among c (g.parts true) t := by
    simp only [Deployment.Among, List.mem_reverse]
  have removes (t : ObjectRef) (mine : d.Among c (g.parts true).reverse t) :
      Removes (MayAnswer Interruption k) (Admits Any fun _ => True)
        (Reduced (d.Among c (g.parts true).reverse) w) (fun t s => s.object? t = none) t := by
    intro s a s' now replied
    rcases delete_cases replied with rfl | ⟨rfl, failed⟩
    · exact ⟨⟨trivial, trivial⟩, now.remove mine, fun _ => object?_remove_self s t,
        fun u => gone_remove⟩
    · exact ⟨⟨trivial, trivial⟩, now, fun ok => absurd ok failed, fun _ gone => gone⟩
  have named (p : Part) (member : p ∈ (g.parts true).reverse) :=
    (Deployment.sound_groupParts g true p (List.mem_reverse.1 member)).2
  rw [Deployment.deleteNodeGroup_eq]
  refine (keeps_deleteParts named removes (fun _ _ _ => trivial) .rfl).imp_ok ?_
  rintro _ s ⟨reduced, gone, -⟩ t
  rw [← same]
  by_cases mine : d.Among c (g.parts true).reverse t
  · simp [gone t mine, mine]
  · simp [reduced.elsewhere mine, mine]

/-- A cluster that has been created, with the groups that have been added and deleted since; each of
these has succeeded. The flag says whether a group of workers has been applied after the last one was
deleted. -/
inductive Managed (k : Keeper ρ) (d : Deployment) : Bool → Cluster → World ρ → Prop
  | created {c : Cluster} {w w' : World ρ}
      (reached : Reaches (MayAnswer Interruption k) (d.createCluster c).run w (done (.ok ())) w') :
      Managed k d (c.nodeGroups.any (!·.isMaster)) c w'
  | added {shared : Bool} {c c' : Cluster} {g : NodeGroup} {w w' : World ρ}
      (before : Managed k d shared c w)
      (reached : Reaches (MayAnswer Interruption k) ((d.addNodeGroup g).run.run c) w
        (done (.ok (), c')) w') : Managed k d (shared || !g.isMaster) c' w'
  | deleted {shared : Bool} {c : Cluster} {name : String} {g : NodeGroup} {w w' : World ρ}
      (before : Managed k d shared c w) (found : c.nodeGroup? name = some g)
      (reached : Reaches (MayAnswer Interruption k) (d.deleteNodeGroup c g).run w
        (done (.ok ())) w') :
      Managed k d (shared && g.isMaster)
        { c with nodeGroups := c.nodeGroups.filter (·.name ≠ name) } w'
  | saved {shared : Bool} {c : Cluster} {w : World ρ} (time : Option Timestamp) (records : ρ)
      (before : Managed k d shared c w) :
      Managed k d shared { c with updatedAt := time } { w with records }

/-- The objects that the groups of a record rely on. -/
structure Supplied (d : Deployment) (shared : Bool) (c : Cluster) (w : World ρ) : Prop where
  secret : (w.object? (d.secretRef c)).isSome
  machines : ∀ g ∈ c.nodeGroups, (w.object? (d.machineTemplateRef c g)).isSome
  workers : ∀ g ∈ c.nodeGroups, g.role = .worker →
    ((w.object? (d.workerTemplateRef c)).isSome ↔ shared = true)

theorem supplied_created
    (joined : Joined d c ((c.foundation ++ [(.cloudConfigSecret, none)]) ++ c.superstructure) w s) :
    Supplied d (c.nodeGroups.any (!·.isMaster)) c s := by
  -- All that groups need is applied after the cloud configuration.
  have group {p : Part} (member : p ∈ NodeGroup.allParts true c.nodeGroups) :
      p ∈ (c.foundation ++ [(.cloudConfigSecret, none)]) ++ c.superstructure :=
    List.mem_append_right _ (List.mem_append_left _ (List.mem_append_right _ member))
  constructor
  case secret =>
    refine (joined _).2 (.inr ⟨(.cloudConfigSecret, none), ?_, d.target_secret c none⟩)
    exact List.mem_append_left _ (List.mem_append_right _ List.mem_cons_self)
  case machines =>
    intro g member
    exact (joined _).2 (.inr ⟨_, group (NodeGroup.machineTemplate_mem_allParts true member),
      d.target_machineTemplate c g⟩)
  case workers =>
    intro g member role
    refine iff_of_true ?_ ?_
    · exact (joined _).2 (.inr ⟨_, group (NodeGroup.workerTemplate_mem_allParts member role),
        d.target_workerTemplate c none⟩)
    · exact List.any_eq_true.2 ⟨g, member, by simp [NodeGroup.isMaster, role]⟩

theorem Supplied.added {shared : Bool} {g : NodeGroup} (h : Supplied d shared c w)
    (joined : Joined d (c.declaring g) (g.parts true) w s) :
    Supplied d (shared || !g.isMaster) (c.declaring g) s := by
  constructor
  case secret => exact (joined _).2 (.inl h.secret)
  case machines =>
    intro g' member
    rcases List.mem_append.1 member with member | member
    · exact (joined _).2 (.inl (h.machines g' member))
    · rw [List.mem_singleton.1 member]
      exact (joined _).2 (.inr (Deployment.among_machineTemplate.2 rfl))
  case workers =>
    intro g' member role
    rw [joined, Deployment.among_workerTemplate]
    rcases List.mem_append.1 member with member | member
    · have before : (w.object? (d.workerTemplateRef (c.declaring g))).isSome ↔ shared = true :=
        h.workers g' member role
      rw [before]
      cases kind : g.role <;> simp [NodeGroup.isMaster, kind]
    · rw [List.mem_singleton.1 member] at role
      simp [NodeGroup.isMaster, role]

theorem Supplied.deleted {shared : Bool} {name : String} {g : NodeGroup}
    (h : Supplied d shared c w) (found : c.nodeGroup? name = some g)
    (parted : Parted d c (g.parts true) w s) :
    Supplied d (shared && g.isMaster)
      { c with nodeGroups := c.nodeGroups.filter (·.name ≠ name) } s := by
  have named : g.name = name := by simpa using List.find?_some found
  constructor
  case secret => exact (parted _).2 ⟨h.secret, Deployment.not_among_secret g⟩
  case machines =>
    intro g' member
    obtain ⟨member, other⟩ := List.mem_filter.1 member
    refine (parted _).2 ⟨h.machines g' member, fun among => ?_⟩
    have same := Deployment.among_machineTemplate.1 among
    simp [same, named] at other
  case workers =>
    intro g' member role
    obtain ⟨member, -⟩ := List.mem_filter.1 member
    have before := h.workers g' member role
    refine (parted (d.workerTemplateRef c)).trans ?_
    rw [before, Deployment.among_workerTemplate]
    cases kind : g.role <;> simp [NodeGroup.isMaster, kind]

theorem Managed.supplied {shared : Bool} (h : Managed k d shared c w) : Supplied d shared c w := by
  induction h with
  | created reached => exact supplied_created ((yields_createCluster _).at_ok reached)
  | @added shared c c' g w w' _ reached ih =>
    have ends := Ensures.at_end (yields_addNodeGroup g w) reached
    obtain ⟨rfl, joined⟩ := ends
    exact ih.added joined
  | deleted _ found reached ih => exact ih.deleted found ((yields_deleteNodeGroup _ _).at_ok reached)
  | saved time records _ ih => exact ⟨ih.secret, ih.machines, ih.workers⟩

/-- Deleting one group of a cluster does not break the others, as far as it takes only what is its
own: whatever the objects of a remaining group refer to is there, but for the template that all
groups of workers share, which is there if and only if a group of workers has been applied since the
last one was deleted. -/
theorem resolves_iff {shared : Bool} {g : NodeGroup} {p : Part} {m : Manifest} {r : ObjectRef}
    (managed : Managed k d shared c w) (member : g ∈ c.nodeGroups) (own : p ∈ g.parts true)
    (drawn : d.manifest p.1 c p.2 none = .ok m) (refers : r ∈ m.references) :
    (w.object? r).isSome ↔ (r = d.workerTemplateRef c → shared = true) := by
  have supplied := managed.supplied
  have secret : d.secretRef c ≠ d.workerTemplateRef c := by
    simp [Deployment.secretRef, Deployment.workerTemplateRef]
  have machines : d.machineTemplateRef c g ≠ d.workerTemplateRef c := by
    simp [Deployment.machineTemplateRef, Deployment.workerTemplateRef]
  rcases Deployment.references_group own drawn refers with rfl | rfl | ⟨role, rfl⟩
  · exact iff_of_true supplied.secret fun same => absurd same secret
  · exact iff_of_true (supplied.machines g member) fun same => absurd same machines
  · rw [supplied.workers g member role]
    exact ⟨fun there _ => there, fun there => there rfl⟩

/-- A cluster with a master and two groups of workers. -/
def sampleOfWorkers : Cluster :=
  { Cluster.completeSample .nil with
    nodeGroups :=
      [{ name := "default-master", role := .master, nodeCount := 1 },
       { name := "first", role := .worker, nodeCount := 1 },
       { name := "second", role := .worker, nodeCount := 1 }] }

/-- Once one of two groups of workers has been deleted, what the other one refers to is not there. -/
theorem resolves_iff_sample :
    let d := Deployment.sample
    let k := Keeper.memory
    ∃ c w g p m r, Managed k d false c w ∧ g ∈ c.nodeGroups ∧ p ∈ g.parts true ∧
      d.manifest p.1 c p.2 none = .ok m ∧ r ∈ m.references ∧ w.object? r = none := by
  intro d k
  let c := sampleOfWorkers
  let first : NodeGroup := { name := "first", role := .worker, nodeCount := 1 }
  let second : NodeGroup := { name := "second", role := .worker, nodeCount := 1 }
  have complete : c.Complete := ⟨List.cons_ne_nil _ _, rfl, rfl, rfl, rfl⟩
  have fresh : Fresh d c ({ records := [] } : World Records) := ⟨rfl, rfl, rfl⟩
  obtain ⟨foundation, drawn₁⟩ := Deployment.drawn_ok d complete (Deployment.sound_foundation c)
  obtain ⟨rest, drawn₂⟩ := Deployment.drawn_ok d complete (Deployment.sound_superstructure c)
  obtain ⟨w, creates, -⟩ := (underway_of_fresh fresh).run_ok (k := k) drawn₁ drawn₂
  have acts (q : ServiceRequest) (w : World Records) :
      MayAnswer Interruption k q w (w.answer k q).1 (w.answer k q).2 := .answered
  have created := reaches_run acts (d.createCluster c).run { records := [] }
  rw [creates] at created
  have deleted := reaches_run acts (d.deleteNodeGroup c first).run w
  have found : c.nodeGroup? "first" = some first := by decide
  let c' := { c with nodeGroups := c.nodeGroups.filter (·.name ≠ "first") }
  let w' := ((d.deleteNodeGroup c first).run.run (answer k) w).2
  have managed : Managed k d false c' w' := (Managed.created created).deleted found deleted
  have member : second ∈ c'.nodeGroups := by decide
  have own : (.machineDeployment, some second) ∈ second.parts true := by decide
  obtain ⟨m, drawn⟩ : ∃ m, d.manifest .machineDeployment c' (some second) none = .ok m := ⟨_, rfl⟩
  have refers : d.workerTemplateRef c' ∈ m.references := by
    rw [Deployment.references_machineDeployment drawn]
    exact List.mem_cons_self
  refine ⟨c', w', second, _, m, d.workerTemplateRef c', managed, member, own, drawn, refers, ?_⟩
  rw [← Option.not_isSome_iff_eq_none, resolves_iff managed member own drawn refers]
  exact fun there => Bool.noConfusion (there rfl)

end World

end ClusterLifecycle
