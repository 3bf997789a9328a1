import ClusterLifecycle.Proofs.Lives
import ClusterLifecycle.Proofs.Observing

/-!
What a status pass has seen where it declares a cluster complete, while the services may answer
anything.

* `ControlPlaneSeen`, `DeploymentSeen`: what was read of a group in the course of the pass;
* `Evident`: what a group is taken for complete on;
* `completion_evident`: a cluster is declared complete only where each of its groups is evident;
* `completion_carried`: what a group was before the pass may count where what is read says nothing.
-/

namespace ClusterLifecycle

open Program Operation

namespace Deployment

/-- The control plane of the group was read, and this is what it showed. -/
def ControlPlaneSeen (d : Deployment) (c : Cluster) (log : Log services) (g : NodeGroup)
    (o : ControlPlaneObservation) : Prop :=
  ∃ t body, d.target .controlPlane c g = .ok t ∧
    (⟨.get t, .ok body⟩ : Exchange services) ∈ log ∧
    ControlPlaneObservation.decode ⟨t, body⟩ = .ok o

/-- The deployment of the group was read, and this is what it showed. -/
def DeploymentSeen (d : Deployment) (c : Cluster) (log : Log services) (g : NodeGroup)
    (o : DeploymentObservation) : Prop :=
  ∃ t body, d.target .machineDeployment c g = .ok t ∧
    (⟨.get t, .ok body⟩ : Exchange services) ∈ log ∧
    DeploymentObservation.decode ⟨t, body⟩ = .ok o

/-- The object of the cluster was read, and this is what it showed. -/
def ClusterSeen (d : Deployment) (c : Cluster) (log : Log services) (o : ClusterObservation) :
    Prop :=
  ∃ t body, d.target .cluster c none = .ok t ∧
    (⟨.get t, .ok body⟩ : Exchange services) ∈ log ∧ ClusterObservation.decode ⟨t, body⟩ = .ok o

/-- What a group is taken for complete on: its control plane is ready, or its deployment is running.
A control plane that is not ready yet and a phase that is not documented say nothing, so that a
group which was complete before is so still. -/
def Evident (d : Deployment) (c : Cluster) (log : Log services) (g : NodeGroup) : Prop :=
  match g.role with
  | .master => ∃ o, d.ControlPlaneSeen c log g o ∧ (o.ready = true ∨ g.status.isComplete)
  | .worker => ∃ o, d.DeploymentSeen c log g o ∧
      (o.phase = .running ∨ o.phase.isDocumented = false ∧ g.status.isComplete)

/-- The group is as a look in the log has left it. -/
def Looked (d : Deployment) (c : Cluster) (log : Log services) (g g' : NodeGroup) : Prop :=
  match g.role with
  | .master => ∃ o, d.ControlPlaneSeen c log g o ∧ g' = g.afterControlPlane o
  | .worker => ∃ o, d.DeploymentSeen c log g o ∧ g' = g.afterDeployment o

variable {d : Deployment} {c c' : Cluster} {log log' : Log services} {g g' : NodeGroup}

theorem ControlPlaneSeen.mono {o : ControlPlaneObservation} (h : d.ControlPlaneSeen c log g o)
    (more : log ⊆ log') : d.ControlPlaneSeen c log' g o := by
  obtain ⟨t, body, target, read, decoded⟩ := h
  exact ⟨t, body, target, more read, decoded⟩

theorem DeploymentSeen.mono {o : DeploymentObservation} (h : d.DeploymentSeen c log g o)
    (more : log ⊆ log') : d.DeploymentSeen c log' g o := by
  obtain ⟨t, body, target, read, decoded⟩ := h
  exact ⟨t, body, target, more read, decoded⟩

theorem ClusterSeen.mono {o : ClusterObservation} (h : d.ClusterSeen c log o)
    (more : log ⊆ log') : d.ClusterSeen c log' o := by
  obtain ⟨t, body, target, read, decoded⟩ := h
  exact ⟨t, body, target, more read, decoded⟩

theorem Looked.mono (h : d.Looked c log g g') (more : log ⊆ log') : d.Looked c log' g g' := by
  unfold Looked at h ⊢
  cases role : g.role with
  | master =>
    rw [role] at h
    obtain ⟨o, seen, is⟩ := h
    exact ⟨o, seen.mono more, is⟩
  | worker =>
    rw [role] at h
    obtain ⟨o, seen, is⟩ := h
    exact ⟨o, seen.mono more, is⟩

/-- A look that leaves a group complete is evidence, or what it read said nothing. -/
theorem Looked.evident (h : d.Looked c log g g') (complete : g'.status.isComplete) :
    d.Evident c log g := by
  unfold Looked at h
  unfold Evident
  cases role : g.role with
  | master =>
    rw [role] at h
    obtain ⟨o, seen, rfl⟩ := h
    refine ⟨o, seen, ?_⟩
    by_cases ready : o.ready
    · exact .inl ready
    · rw [NodeGroup.afterControlPlane, if_neg ready] at complete
      exact .inr complete
  | worker =>
    rw [role] at h
    obtain ⟨o, seen, rfl⟩ := h
    refine ⟨o, seen, ?_⟩
    unfold NodeGroup.afterDeployment DeploymentPhase.status? at complete
    cases phase : o.phase with
    | running => exact .inl rfl
    | other text =>
      rw [phase] at complete
      exact .inr ⟨rfl, complete⟩
    | scalingUp | scalingDown | failed | unknown =>
      rw [phase] at complete
      cases complete

/-- The objects of a group are found by the identity of the cluster. -/
theorem looked_follows (same : c'.uuid = c.uuid) : d.Looked c' log g g' ↔ d.Looked c log g g' := by
  have target {k : ResourceKind} (grouped : k = .controlPlane ∨ k = .machineDeployment) :
      d.target k c' g = d.target k c g := by
    unfold target ResourceKind.ref ResourceKind.objectName
    rcases grouped with rfl | rfl <;> simp only [ResourceKind.groupObjectName, same]
  simp only [Looked, ControlPlaneSeen, DeploymentSeen, target (.inl rfl), target (.inr rfl)]

end Deployment

section
variable {α β : Type} {P : α → Log services → Prop} {s : Unit × Log services}

/-- Where the operation succeeds the log has grown, and shows what it returns as `P` says. -/
def Operation.Sees (P : α → Log services → Prop) (op : Operation α) (s : Unit × Log services) :
    Prop :=
  Keeps (Logged Anyhow) (fun _ _ _ _ => True) (fun _ _ => True)
    (fun a s' => s.2 ⊆ s'.2 ∧ P a s'.2) op s

theorem sees_pure {a : α} (holds : P a s.2) : Sees P (pure a) s := ⟨List.Subset.refl _, holds⟩

theorem sees_given {r : Result β} {f : β → Operation α}
    (rest : ∀ b, r = .ok b → Sees P (f b) s) : Sees P (liftM r >>= f) s := by
  rw [Sees, keeps_bind, keeps_result]
  cases r with
  | ok b => exact rest b rfl
  | error e => trivial

theorem Operation.Sees.bind {B : β → Log services → Prop} {op : Operation β}
    {f : β → Operation α} (first : Sees B op s)
    (rest : ∀ b s', s.2 ⊆ s'.2 → B b s'.2 → Sees P (f b) s') : Sees P (op >>= f) s := by
  refine Keeps.bind first ?_
  rintro b s' ⟨more, holds⟩
  exact Keeps.imp_ok (rest b s' more holds) fun a s'' ⟨later, sees⟩ =>
    ⟨List.Subset.trans more later, sees⟩

/-- An answer stands in the log from then on. -/
theorem sees_getObject (t : ObjectRef) :
    Sees (fun body log => (⟨.get t, .ok body⟩ : Exchange services) ∈ log) (getObject t) s := by
  obtain ⟨_, log⟩ := s
  rintro (e | body) ⟨_, log'⟩ ⟨-, rfl⟩
  · exact ⟨trivial, trivial⟩
  · exact ⟨trivial, List.subset_append_left _ _, by simp⟩

theorem sees_saveNodeGroup (id : Uuid) (g : NodeGroup) :
    Sees (fun _ _ => True) (saveNodeGroup id g) s := by
  obtain ⟨_, log⟩ := s
  rintro (e | u) ⟨_, log'⟩ ⟨-, rfl⟩
  · exact ⟨trivial, trivial⟩
  · exact ⟨trivial, List.subset_append_left _ _, trivial⟩

end

namespace Deployment

variable {d : Deployment} {c c' : Cluster} {s : Unit × Log services}

theorem sees_fetch (k : ResourceKind) (g : Option NodeGroup) :
    Sees (fun o log => ∃ t body, o = ⟨t, body⟩ ∧ d.target k c g = .ok t ∧
      (⟨.get t, .ok body⟩ : Exchange services) ∈ log) (d.fetch k c g) s := by
  unfold fetch
  refine sees_given fun t target => ?_
  exact (sees_getObject t).bind fun body s' _ read => sees_pure ⟨t, body, rfl, target, read⟩

theorem sees_observeNodeGroup (g : NodeGroup) :
    Sees (fun g' log => d.Looked c log g g') (d.observeNodeGroup c g) s := by
  unfold observeNodeGroup
  cases role : g.role with
  | master =>
    refine (sees_fetch .controlPlane g).bind ?_
    rintro _ s - ⟨t, body, rfl, target, read⟩
    refine sees_given fun o decoded => sees_pure ?_
    rw [Looked, role]
    exact ⟨o, ⟨t, body, target, read, decoded⟩, rfl⟩
  | worker =>
    refine (sees_fetch .machineDeployment g).bind ?_
    rintro _ s - ⟨t, body, rfl, target, read⟩
    refine sees_given fun o decoded => sees_pure ?_
    rw [Looked, role]
    exact ⟨o, ⟨t, body, target, read, decoded⟩, rfl⟩

theorem sees_updateNodeGroupStatus (g : NodeGroup) :
    Sees (fun g' log => d.Looked c log g g') (d.updateNodeGroupStatus c g) s := by
  unfold updateNodeGroupStatus
  refine (sees_observeNodeGroup g).bind fun g' s _ looked => ?_
  refine (sees_saveNodeGroup c.uuid g').bind fun _ s' more _ => ?_
  exact sees_pure (looked.mono more)

/-- Where groups are found to have settled, a look at each of them has left it complete. -/
theorem sees_settleGroups (done rest : List NodeGroup) :
    Pass.Keeps (Logged Anyhow) (fun _ _ _ _ => True)
      (fun _ c' _ => ∃ groups, c' = c.withGroups groups)
      (fun settled c' s' => s.2 ⊆ s'.2 ∧ (∃ groups, c' = c.withGroups groups) ∧
        (settled = true → ∀ g ∈ rest, ∃ g', d.Looked c s'.2 g g' ∧ g'.status.isComplete))
      (d.settleGroups done rest) (c.withGroups (done ++ rest)) s := by
  induction rest generalizing done s with
  | nil => exact ⟨List.Subset.refl _, ⟨_, rfl⟩, by simp⟩
  | cons g rest ih =>
    unfold settleGroups
    rw [Pass.keeps_bind, Pass.keeps_get, Pass.keeps_bind, Pass.keeps_lift]
    refine Keeps.imp (sees_updateNodeGroupStatus g) (fun _ _ _ => ⟨_, rfl⟩) ?_
    rintro g' s' ⟨more, looked⟩
    have looked : d.Looked c s'.2 g g' := (looked_follows rfl).1 looked
    rw [Pass.keeps_bind, Pass.keeps_modify]
    have moved : done ++ g' :: rest = done ++ [g'] ++ rest := List.append_cons _ _ _
    change Pass.Keeps _ _ _ _ (if g'.status.isComplete then d.settleGroups (done ++ [g']) rest
      else pure false) (c.withGroups (done ++ g' :: rest)) s'
    split
    next complete =>
      rw [moved]
      refine (ih (done ++ [g'])).imp_ok ?_
      rintro settled c' s'' ⟨later, groups, others⟩
      exact ⟨List.Subset.trans more later, groups, fun all =>
        List.forall_mem_cons.2 ⟨⟨g', looked.mono later, complete⟩, others all⟩⟩
    next => exact ⟨more, ⟨_, rfl⟩, fun all => absurd all Bool.false_ne_true⟩

/-- The status is what it was, or all groups are evident. -/
def Declared (d : Deployment) (c c' : Cluster) (s : Unit × Log services) : Prop :=
  c'.status = c.status ∨ ∀ g ∈ c.nodeGroups, d.Evident c s.2 g

/-- The status is what it was, or the address is the one that the object of the cluster gave. -/
def Addressed (d : Deployment) (c c' : Cluster) (s : Unit × Log services) : Prop :=
  c'.status = c.status ∨
    ∃ o address, d.ClusterSeen c s.2 o ∧ o.apiAddress = .ok address ∧ c'.apiAddress = some address

theorem sees_runningVersion : Sees (fun _ _ => True) (d.runningVersion c) s := by
  unfold runningVersion
  generalize (none : Option String) = version
  induction c.masters generalizing version s with
  | nil => exact sees_pure trivial
  | cons g rest ih =>
    rw [List.foldlM_cons]
    refine Sees.bind (B := fun _ _ => True) ?_ fun version _ _ _ => ih version
    refine (sees_fetch .controlPlane g).bind fun o _ _ _ => ?_
    exact sees_given fun o _ => sees_given fun version _ => sees_pure trivial

theorem sees_provisioningPass :
    Pass.Keeps (Logged Anyhow) (fun _ _ _ _ => True)
      (fun _ c' s' => d.Declared c c' s' ∧ d.Addressed c c' s')
      (fun _ c' s' => d.Declared c c' s' ∧ d.Addressed c c' s') d.provisioningPass c s := by
  unfold provisioningPass
  rw [Pass.keeps_bind, Pass.keeps_get, Pass.keeps_bind, Pass.keeps_lift]
  refine Keeps.imp (sees_fetch .cluster none) (fun _ _ _ => ⟨.inl rfl, .inl rfl⟩) ?_
  rintro _ s ⟨-, t, body, rfl, target, read⟩
  rw [Pass.keeps_bind, Pass.keeps_result]
  cases decoded : ClusterObservation.decode ⟨t, body⟩ with
  | error e => exact ⟨.inl rfl, .inl rfl⟩
  | ok o =>
    have seen : d.ClusterSeen c s.2 o := ⟨t, body, target, read, decoded⟩
    change Pass.Keeps _ _ _ _ _ c s
    split
    next =>
      rw [Pass.keeps_bind, Pass.keeps_result]
      cases given : o.apiAddress with
      | error e => exact ⟨.inl rfl, .inl rfl⟩
      | ok address =>
        change Pass.Keeps _ _ _ _ _ c s
        have settle := sees_settleGroups (d := d) (c := c) (s := s) [] c.nodeGroups
        rw [Pass.keeps_bind]
        refine Pass.Keeps.imp settle ?_ ?_
        · rintro _ _ _ ⟨groups, rfl⟩
          exact ⟨.inl rfl, .inl rfl⟩
        · rintro settled _ s ⟨grown, ⟨groups, rfl⟩, looks⟩
          split
          next all =>
            rw [Pass.keeps_bind, Pass.keeps_get, Pass.keeps_bind, Pass.keeps_lift]
            refine Keeps.imp sees_runningVersion (fun _ _ _ => ⟨.inl rfl, .inl rfl⟩) ?_
            rintro version s' ⟨more, -⟩
            rw [Pass.keeps_bind, Pass.keeps_set, Pass.keeps_lift]
            have after (log : Log services) (later : s'.2 ⊆ log) :
                (∀ g ∈ c.nodeGroups, d.Evident c log g) ∧ d.ClusterSeen c log o := by
              have since := List.Subset.trans more later
              constructor
              · intro g member
                obtain ⟨g', looked, complete⟩ := looks all g member
                exact (looked.mono since).evident complete
              · exact seen.mono (List.Subset.trans grown since)
            rintro (e | u) s'' ⟨-, is⟩ <;>
            · obtain ⟨evident, seen⟩ := after s''.2 (is ▸ List.subset_append_left _ _)
              exact ⟨trivial, .inr evident, .inr ⟨o, address, seen, given, rfl⟩⟩
          next => exact ⟨.inl rfl, .inl rfl⟩
    next => exact ⟨.inl rfl, .inl rfl⟩

/-- What a pass over a cluster that is to be there keeps is so where a cluster is declared created or
updated. -/
theorem of_provisioningPass {P : Cluster → Unit × Log services → Prop} {r : Result Unit}
    {log : Log services} (start : ∀ s, P c s)
    (pass : Pass.Keeps (Logged Anyhow) (fun _ _ _ _ => True) (fun _ => P) (fun _ => P)
      d.provisioningPass c ((), []))
    (reached : Reaches (Logged Anyhow) (d.updateClusterStatus.run.run c) ((), [])
      (.done (r, c')) ((), log))
    (complete : c'.status = ⟨.create, .complete⟩ ∨ c'.status = ⟨.update, .complete⟩) :
    P c' ((), log) := by
  have living : c.status.action ≠ .delete := by
    intro deleting
    have action : c'.status.action = c.status.action := by
      rcases (tracks_updateClusterStatus reached).status with same | ⟨-, is⟩
      · rw [same]
      · rw [is]
        rfl
    rcases complete with is | is <;>
      rw [is, deleting] at action <;> cases action
  have whole : Pass.Keeps (Logged Anyhow) (fun _ _ _ _ => True) (fun _ => P) (fun _ => P)
      d.updateClusterStatus c ((), []) := by
    unfold updateClusterStatus
    rw [Pass.keeps_bind, Pass.keeps_get]
    split
    · cases action : c.status.action with
      | create | update => exact pass
      | delete => exact absurd action living
    · exact start _
  have ends := Ensures.at_end whole reached
  cases r with
  | ok u => exact ends
  | error e => exact ends

/-- A cluster that is declared created or updated was found complete on the evidence of every one of
its groups. -/
theorem completion_evident {r : Result Unit} {log : Log services}
    (reached : Reaches (Logged Anyhow) (d.updateClusterStatus.run.run c) ((), [])
      (.done (r, c')) ((), log))
    (moved : c'.status ≠ c.status)
    (complete : c'.status = ⟨.create, .complete⟩ ∨ c'.status = ⟨.update, .complete⟩) :
    ∀ g ∈ c.nodeGroups, d.Evident c log g := by
  have ends : d.Declared c c' ((), log) :=
    (of_provisioningPass (fun _ => ⟨.inl rfl, .inl rfl⟩) sees_provisioningPass reached complete).1
  exact ends.resolve_left moved

theorem completion_evident_sample :
    let d := Deployment.sample
    let c := Cluster.sample .nil
    ∃ r c' log, Reaches (Logged Anyhow) (d.updateClusterStatus.run.run c) ((), [])
        (.done (r, c')) ((), log) ∧ c'.status ≠ c.status ∧ c'.status = ⟨.create, .complete⟩ ∧
      ∀ g ∈ c.nodeGroups, d.Evident c log g := by
  intro d c
  let ran := (d.updateClusterStatus.run.run c).run (I := services) (always obliging) ((), [])
  have reached : Reaches (Logged Anyhow) (d.updateClusterStatus.run.run c) ((), [])
      (.done (ran.1.1, ran.1.2)) ((), ran.2.2) := reaches_run (logged_always obliging) _ _
  have complete : ran.1.2.status = ⟨.create, .complete⟩ := by decide +kernel
  have moved : ran.1.2.status ≠ c.status := by
    rw [complete]
    decide
  exact ⟨_, _, _, reached, moved, complete, completion_evident reached moved (.inl complete)⟩

/-- A cluster with groups that were complete, once its control plane has stopped being ready and its
workers are in a phase of their own. -/
def stalled (d : Deployment) (c : Cluster) : World Records :=
  let ref (k : ResourceKind) (suffix : String) : ObjectRef :=
    { apiVersion := k.apiVersion, kind := k.kind, name := c.uuid.toString ++ suffix
      scope := some d.scope }
  let ready := Json.object [("type", "ControlPlaneReady"), ("status", "True")]
  let endpoint := Json.object [("host", "10.0.0.1"), ("port", .ofNat 6443)]
  { objects := [
      (ref .cluster "", .object [("spec", .object [("controlPlaneEndpoint", endpoint)]),
        ("status", .object [("conditions", .array [ready])])]),
      (ref .controlPlane "-default-master",
        .object [("status", .object [("ready", false), ("version", "v1.23.5")])]),
      (ref .machineDeployment "-default-worker",
        .object [("status", .object [("phase", "Paused")])])]
    records := [(c.uuid, c)] }

/-- What is read may say nothing: the pass then goes by what the groups were before. -/
theorem completion_carried :
    let d := Deployment.sample
    let g : NodeGroup := { name := "default-master", role := .master, nodeCount := 1
                           status := ⟨.create, .complete⟩ }
    let h : NodeGroup := { name := "default-worker", role := .worker, nodeCount := 2
                           status := ⟨.create, .complete⟩ }
    let c := (Cluster.sample .nil).withGroups [g, h]
    let w := stalled d c
    let ran := (d.updateClusterStatus.run.run c).run (I := services) (World.answer .memory) w
    c.status = .createInProgress ∧ ran.1.1 = .ok () ∧ ran.1.2.status = ⟨.create, .complete⟩ ∧
      (w.controlPlaneShown d c g).map (·.ready) = .ok false ∧
      (w.deploymentShown d c h).map (·.phase) = .ok (.other "Paused") := by
  decide +kernel

end Deployment

end ClusterLifecycle
