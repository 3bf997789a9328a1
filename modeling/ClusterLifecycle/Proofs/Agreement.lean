import ClusterLifecycle.Proofs.Recording

/-!
The record in hand and the record that is stored, while both are changed and any call may fail.

* `Cluster.Matches`: two records agree in all that operations change;
* `Even`, `Apart`: where a pass may leave the two;
* `agrees_iff`: they come apart if and only if a save of the whole record fails, and a pass that is
  tried again does not bring them together.
-/

namespace ClusterLifecycle

open Program

/-- The records agree in all that operations change. -/
structure Cluster.Matches (c c' : Cluster) : Prop where
  status : c'.status = c.status
  statusReason : c'.statusReason = c.statusReason
  apiAddress : c'.apiAddress = c.apiAddress
  coeVersion : c'.coeVersion = c.coeVersion
  nodeGroups : c'.nodeGroups = c.nodeGroups

theorem Cluster.matches_of_undated {c c' : Cluster} (h : c'.undated = c.undated) :
    c.Matches c' := by
  have status := congrArg Cluster.status h
  have reason := congrArg Cluster.statusReason h
  have address := congrArg Cluster.apiAddress h
  have version := congrArg Cluster.coeVersion h
  have groups := congrArg Cluster.nodeGroups h
  exact ⟨status, reason, address, version, groups⟩

/-- The record that is stored agrees with the one in hand. -/
def Keeper.Agrees {ρ : Type} (k : Keeper ρ) (c : Cluster) (records : ρ) : Prop :=
  ∃ stored, k.load c.uuid records = .ok stored ∧ c.Matches stored

theorem Keeper.Holds.agrees {ρ : Type} {k : Keeper ρ} {c : Cluster} {records : ρ}
    (h : k.Holds c records) : k.Agrees c records := by
  obtain ⟨stored, found, same⟩ := h
  exact ⟨stored, found, Cluster.matches_of_undated same⟩

/-- A save of the whole record has failed. -/
def Unsaved (log : Log services) : Prop :=
  ∃ c e, (⟨.saveCluster c, .error e⟩ : Exchange services) ∈ log

/-- The operations that change the record in hand. -/
inductive Change where
  | status
  | add (g : NodeGroup)

namespace Change

def pass (d : Deployment) : Change → Pass Unit
  | status => d.updateClusterStatus
  | add g => d.addNodeGroup g

/-- Tried again on that record, the operation does nothing, or it declares the group twice. -/
def Spent (d : Deployment) (c : Cluster) : Change → Prop
  | status => d.updateClusterStatus.run.run c = .done (.ok (), c)
  | add g => g ∈ c.nodeGroups

end Change

section
variable {ρ : Type} (k : Keeper ρ)

/-- The record in hand is stored, and nothing has failed to be saved. -/
def Even (c : Cluster) (s : ρ × Log services) : Prop := k.Holds c s.1 ∧ ¬Unsaved s.2

/-- The record in hand has not been saved, and what is stored is another. -/
def Apart (spent : Cluster → Prop) (c : Cluster) (s : ρ × Log services) : Prop :=
  Unsaved s.2 ∧ ¬k.Agrees c s.1 ∧ spent c

/-- How services answer that fail a save only before it is done. -/
abbrev Promptly : Conduct services (ρ × Log services) := Logged (k.Attends False)

/-- All exchanges will do. -/
abbrev Whatever : Conduct services (ρ × Log services) := fun _ _ _ _ => True

variable {k} {c c' : Cluster} {s s' : ρ × Log services} {spent : Cluster → Prop} {α : Type}

theorem not_unsaved_concat {log : Log services} {x : Exchange services} (before : ¬Unsaved log)
    (well : ∀ c e, x ≠ ⟨.saveCluster c, .error e⟩) : ¬Unsaved (log ++ [x]) := by
  rintro ⟨c, e, member⟩
  rcases List.mem_append.1 member with there | last
  · exact before ⟨c, e, there⟩
  · exact well c e (List.mem_singleton.1 last).symm

/-- All requests but saves leave the records even. -/
theorem Even.exchange {q : ServiceRequest} {a : q.Answer} (elsewhere : ¬q.Saves)
    (even : Even k c s) (answered : Promptly k q s a s') : Even k c s' := by
  obtain ⟨records, log⟩ := s
  obtain ⟨records', log'⟩ := s'
  obtain ⟨attended, rfl⟩ := answered
  obtain ⟨held, saved⟩ := even
  have same : records' = records := by
    cases attended with
    | other | refused => rfl
    | saved | savedGroup | lost | lostGroup => exact absurd trivial elsewhere
  refine ⟨same ▸ held, not_unsaved_concat saved ?_⟩
  rintro c e is
  cases is
  exact elsewhere trivial

/-- What saves nothing leaves the records even. -/
theorem Even.keeps {P : α → Prop} {op : Operation α} (even : Even k c s)
    (only : op.Only (fun q => ¬q.Saves) P) :
    op.Keeps (Promptly k) Whatever (fun _ => Even k c) (fun a s => P a ∧ Even k c s) s :=
  only.keeps (fun _ _ _ _ elsewhere even answered => ⟨trivial, even.exchange elsewhere answered⟩) even

section
variable (faithful : k.Faithful c.uuid)
include faithful

/-- A record that has changed is saved, or comes apart from what is stored. -/
theorem ends_saveCluster (spent : Cluster → Prop) (c' : Cluster) (even : Even k c s)
    (same : c'.uuid = c.uuid) (changed : ¬c'.Matches c) (done : spent c') :
    Pass.Keeps (Promptly k) Whatever (fun _ => Apart k spent) (fun _ => Even k)
      (liftM (Operation.saveCluster c')) c' s := by
  obtain ⟨records, log⟩ := s
  obtain ⟨⟨stored, found, as⟩, saved⟩ := even
  rw [Pass.keeps_lift]
  rintro a ⟨records', log'⟩ ⟨attended, rfl⟩
  refine ⟨trivial, ?_⟩
  -- What was stored stays where the save fails.
  have failed (e : Error) (there : k.load c.uuid records' = .ok stored) :
      Apart k spent c' (records', log ++ [⟨.saveCluster c', .error e⟩]) := by
    refine ⟨⟨c', e, by simp⟩, ?_, done⟩
    rintro ⟨found', loaded, agrees⟩
    rw [same, there] at loaded
    cases loaded
    obtain ⟨status, reason, address, version, groups⟩ := Cluster.matches_of_undated as
    exact changed ⟨status.symm.trans agrees.status, reason.symm.trans agrees.statusReason,
      address.symm.trans agrees.apiAddress, version.symm.trans agrees.coeVersion,
      groups.symm.trans agrees.nodeGroups⟩
  cases attended with
  | other _ _ elsewhere => exact absurd trivial elsewhere
  | lost _ _ _ late => exact late.elim
  | refused e => exact failed e found
  | saved =>
    cases result : (k.save c' records).1 with
    | ok u =>
      refine ⟨faithful.saved c' records same result, not_unsaved_concat saved ?_⟩
      rintro c e is
      cases is
    | error e =>
      exact failed e ((faithful.spared c' records e same result stored).2 found)

/-- A group is saved, or all is as it was. -/
theorem ends_saveNodeGroup {before after : List NodeGroup} {g g' : NodeGroup}
    {P : Unit → ρ × Log services → Prop}
    (even : Even k (c.withGroups (before ++ g :: after)) s) (name : g'.name = g.name)
    (apart : ∀ x ∈ before, x.name ≠ g.name)
    (done : ∀ s, Even k (c.withGroups (before ++ g' :: after)) s → P () s) :
    Operation.Keeps (Promptly k) Whatever
      (fun _ => Even k (c.withGroups (before ++ g :: after))) P
      (Operation.saveNodeGroup c.uuid g') s := by
  obtain ⟨records, log⟩ := s
  obtain ⟨⟨stored, found, as⟩, saved⟩ := even
  have found : k.load c.uuid records = .ok stored := found
  rintro a ⟨records', log'⟩ ⟨attended, rfl⟩
  refine ⟨trivial, ?_⟩
  have unharmed (a : Result Unit) : ¬Unsaved (log ++ [⟨.saveNodeGroup c.uuid g', a⟩]) := by
    refine not_unsaved_concat saved ?_
    rintro c e is
    cases is
  have failed (e : Error) (there : k.load c.uuid records' = .ok stored) :
      Even k (c.withGroups (before ++ g :: after))
        (records', log ++ [⟨.saveNodeGroup c.uuid g', .error e⟩]) :=
    ⟨⟨stored, there, as⟩, unharmed _⟩
  cases attended with
  | other _ _ elsewhere => exact absurd trivial elsewhere
  | lostGroup _ _ _ _ late => exact late.elim
  | refused e => exact failed e found
  | savedGroup =>
    have mine : (stored.withNodeGroup g').uuid = c.uuid := by
      have same := Cluster.uuid_of_undated as
      exact same
    have through := faithful.saveNodeGroup stored g' records found
    rw [through] at failed ⊢
    cases result : (k.save (stored.withNodeGroup g') records).1 with
    | ok u =>
      obtain ⟨again, loaded, as'⟩ := faithful.saved _ records mine result
      apply done
      refine ⟨⟨again, ?_, ?_⟩, unharmed _⟩
      · exact mine ▸ loaded
      · rw [as', Cluster.undated_withNodeGroup as, Cluster.withNodeGroup_middle name c before after
          apart]
    | error e => exact failed e ((faithful.spared _ records e mine result stored).2 found)

/-- Groups are brought up to date in both records at once. -/
theorem ends_settleGroups {d : Deployment} {done rest : List NodeGroup}
    (distinct : ((done ++ rest).map (·.name)).Nodup)
    (even : Even k (c.withGroups (done ++ rest)) s) :
    Pass.Keeps (Promptly k) Whatever (fun _ => Even k)
      (fun _ c' s => (∃ groups, c' = c.withGroups groups) ∧ Even k c' s)
      (d.settleGroups done rest) (c.withGroups (done ++ rest)) s := by
  induction rest generalizing done s with
  | nil => exact ⟨⟨_, rfl⟩, even⟩
  | cons g rest ih =>
    unfold Deployment.settleGroups
    rw [Pass.keeps_bind, Pass.keeps_get, Pass.keeps_bind, Pass.keeps_lift]
    unfold Deployment.updateNodeGroupStatus
    refine (even.keeps (Deployment.only_observeNodeGroup d _ (fun _ => id) g)).bind ?_
    rintro g' s ⟨post, even⟩
    have name : g'.name = g.name := congrArg Prod.fst post
    have apart : ∀ x ∈ done, x.name ≠ g.name := by
      intro x hx clash
      rw [List.map_append, List.nodup_append] at distinct
      exact distinct.2.2 _ (List.mem_map_of_mem hx) _ List.mem_cons_self clash
    have distinct' : ((done ++ [g'] ++ rest).map (·.name)).Nodup := by
      rw [← List.append_cons]
      simpa [name] using distinct
    refine (Operation.keeps_bind _ _).2 (ends_saveNodeGroup faithful even name apart ?_)
    intro s even
    change Pass.Keeps _ _ _ _ (if g'.status.isComplete then d.settleGroups (done ++ [g']) rest
      else pure false) (c.withGroups (done ++ g' :: rest)) s
    have moved : done ++ g' :: rest = done ++ [g'] ++ rest := List.append_cons _ _ _
    split
    · rw [moved] at even ⊢
      exact ih distinct' even
    · exact ⟨⟨_, rfl⟩, even⟩

theorem ends_provisioningPass {d : Deployment} (distinct : (c.nodeGroups.map (·.name)).Nodup)
    (even : Even k c s) (unsettled : c.status.phase = .inProgress)
    (done : ∀ c', c'.status.phase = .complete → spent c') :
    Pass.Keeps (Promptly k) Whatever
      (fun _ c' s => Even k c' s ∨ Apart k spent c' s) (fun _ => Even k)
      d.provisioningPass c s := by
  unfold Deployment.provisioningPass
  rw [Pass.keeps_bind, Pass.keeps_get, Pass.keeps_bind, Pass.keeps_lift]
  refine (even.keeps (Deployment.only_fetch d _ c none (fun _ => id))).imp
    (fun _ _ even => .inl even) ?_
  rintro o s ⟨-, even⟩
  rw [Pass.keeps_bind, Pass.keeps_result]
  cases ClusterObservation.decode o with
  | error e => exact .inl even
  | ok o =>
    change Pass.Keeps _ _ _ _ _ c s
    split
    · rw [Pass.keeps_bind, Pass.keeps_result]
      cases o.apiAddress with
      | error e => exact .inl even
      | ok address =>
        change Pass.Keeps _ _ _ _ _ c s
        have settle : Pass.Keeps (Promptly k) Whatever (fun _ => Even k)
            (fun _ c' s => (∃ groups, c' = c.withGroups groups) ∧ Even k c' s)
            (d.settleGroups [] c.nodeGroups) c _ := ends_settleGroups faithful distinct even
        rw [Pass.keeps_bind]
        refine settle.imp (fun _ _ _ even => .inl even) ?_
        rintro settled c' s ⟨⟨groups, rfl⟩, even⟩
        split
        · rw [Pass.keeps_bind, Pass.keeps_get, Pass.keeps_bind, Pass.keeps_lift]
          refine (even.keeps (Deployment.only_runningVersion d _ (fun _ => id))).imp
            (fun _ _ even => .inl even) ?_
          rintro version s ⟨-, even⟩
          rw [Pass.keeps_bind, Pass.keeps_set]
          have settles := ends_saveCluster (c := c.withGroups groups) faithful spent
            { c.withGroups groups with
              apiAddress := some address
              coeVersion := version.or (c.withGroups groups).coeVersion
              status := (c.withGroups groups).status.withPhase .complete }
            even rfl ?_ (done _ rfl)
          · exact settles.imp (fun _ _ _ apart => .inr apart)
              fun _ _ _ even => even
          · intro agrees
            have phase := congrArg Status.phase agrees.status
            change c.status.phase = .complete at phase
            rw [unsettled] at phase
            cases phase
        · exact even
    · exact even

theorem ends_teardownPass {d : Deployment} (even : Even k c s)
    (unsettled : c.status.phase = .inProgress)
    (done : ∀ c', c'.status.phase = .complete → spent c') :
    Pass.Keeps (Promptly k) Whatever
      (fun _ c' s => Even k c' s ∨ Apart k spent c' s) (fun _ => Even k)
      d.teardownPass c s := by
  unfold Deployment.teardownPass
  rw [Pass.keeps_bind, Pass.keeps_get, Pass.keeps_bind, Pass.keeps_lift]
  refine (even.keeps (Deployment.only_isPresent d _ c (fun _ => id))).imp
    (fun _ _ even => .inl even) ?_
  rintro present s ⟨-, even⟩
  cases present with
  | true => exact even
  | false =>
    rw [if_neg (by decide), Pass.keeps_bind, Pass.keeps_lift]
    refine (even.keeps (Credential.only_revoke id (fun _ => id))).imp (fun _ _ even => .inl even) ?_
    rintro _ s ⟨-, even⟩
    have deleted : Pass.Keeps (Promptly k) Whatever
        (fun _ c' s => Even k c' s ∨ Apart k spent c' s) (fun _ c' s => c' = c ∧ Even k c s)
        ((ResourceKind.cloudConfigSecret :: ResourceKind.authorities).forM fun k =>
          (d.delete k c : Pass Unit)) c s := by
      refine Pass.keeps_forM _ _ ?_ ⟨rfl, even⟩
      rintro kind _ c' s ⟨rfl, even⟩
      rw [Pass.keeps_lift]
      exact (even.keeps (Deployment.only_delete d kind c' none fun _ _ => id)).imp
        (fun _ _ even => .inl even) fun _ _ h => ⟨rfl, h.2⟩
    apply deleted.bind
    rintro _ c' s ⟨rfl, even⟩
    rw [Pass.keeps_bind, Pass.keeps_set]
    have settles := ends_saveCluster faithful spent
      { c' with status := c'.status.withPhase .complete } even rfl ?_ (done _ rfl)
    · exact settles.imp (fun _ _ _ apart => .inr apart)
        fun _ _ _ even => even
    · intro agrees
      have phase := congrArg Status.phase agrees.status
      change c'.status.phase = .complete at phase
      rw [unsettled] at phase
      cases phase

theorem ends_addNodeGroup {d : Deployment} {g : NodeGroup} (even : Even k c s) :
    Pass.Keeps (Promptly k) Whatever
      (fun _ c' s => Even k c' s ∨ Apart k (fun c' => g ∈ c'.nodeGroups) c' s) (fun _ => Even k)
      (d.addNodeGroup g) c s := by
  rw [Deployment.addNodeGroup_eq, Pass.keeps_bind, Pass.keeps_get]
  split
  · exact .inl even
  · rw [Pass.keeps_bind, Pass.keeps_set, Pass.keeps_bind]
    have changed : ¬(c.declaring g).Matches c := by
      intro agrees
      have longer := congrArg List.length agrees.nodeGroups
      change c.nodeGroups.length = (c.nodeGroups ++ [g]).length at longer
      simp at longer
    have saves := ends_saveCluster faithful (fun c' => g ∈ c'.nodeGroups) (c.declaring g) even rfl
      changed (List.mem_append_right _ List.mem_cons_self)
    refine saves.imp (fun _ _ _ apart => .inr apart) ?_
    intro _ c' s even
    rw [Pass.keeps_lift]
    exact (even.keeps (Deployment.only_provision d _ (fun _ => id) g true)).imp
      (fun _ _ even => .inl even) fun _ _ h => h.2

/-- Wherever an operation on the record in hand ends, that record is stored, or it has come apart
from what is stored. -/
theorem ends_change {d : Deployment} (change : Change)
    (distinct : (c.nodeGroups.map (·.name)).Nodup) (even : Even k c s) :
    Pass.Keeps (Promptly k) Whatever
      (fun _ c' s => Even k c' s ∨ Apart k (change.Spent d) c' s) (fun _ => Even k)
      (change.pass d) c s := by
  cases change with
  | add g => exact ends_addNodeGroup faithful even
  | status =>
    have done (c' : Cluster) (complete : c'.status.phase = .complete) :
        Change.status.Spent d c' := by
      have settled : ¬c'.status.phase = .inProgress := by simp [complete]
      change (d.updateClusterStatus.run.run c') = _
      unfold Deployment.updateClusterStatus
      change ((if c'.status.phase = .inProgress then _ else pure () : Pass Unit).run.run c') = _
      rw [if_neg settled]
      rfl
    change Pass.Keeps _ _ _ _ d.updateClusterStatus c s
    unfold Deployment.updateClusterStatus
    rw [Pass.keeps_bind, Pass.keeps_get]
    split
    next unsettled =>
      cases c.status.action with
      | create | update => exact ends_provisioningPass faithful distinct even unsettled done
      | delete => exact ends_teardownPass faithful even unsettled done
    next => exact even

end

/-- Where the record in hand is stored and an operation changes it, the two agree afterwards if and
only if no save of the whole record has failed. Where one has failed, the operation fails, and trying
it again on the record in hand does not make up for it. -/
theorem agrees_iff {d : Deployment} {change : Change} {records records' : ρ} {log : Log services}
    {r : Result Unit} (faithful : k.Faithful c.uuid) (held : k.Holds c records)
    (distinct : (c.nodeGroups.map (·.name)).Nodup)
    (reached : Reaches (Promptly k) ((change.pass d).run.run c) (records, []) (.done (r, c'))
      (records', log)) :
    (k.Agrees c' records' ↔ ¬Unsaved log) ∧ (¬Unsaved log → k.Holds c' records') ∧
      (Unsaved log → (∃ e, r = .error e) ∧ change.Spent d c') := by
  have even : Even k c (records, []) := ⟨held, by simp [Unsaved]⟩
  have ends := Ensures.at_end (ends_change (d := d) faithful change distinct even) reached
  have outcome : Even k c' (records', log) ∨
      Apart k (change.Spent d) c' (records', log) ∧ ∃ e, r = .error e := by
    cases r with
    | ok u => exact .inl ends
    | error e => exact Or.imp_right (fun apart => ⟨apart, e, rfl⟩) ends
  rcases outcome with ⟨held', saved⟩ | ⟨⟨unsaved, apart, spent⟩, failed⟩
  · exact ⟨iff_of_true held'.agrees saved, fun _ => held', fun unsaved => absurd unsaved saved⟩
  · exact ⟨iff_of_false apart (not_not_intro unsaved), fun saved => absurd unsaved saved,
      fun _ => ⟨failed, spent⟩⟩

/-- Everything of the cluster is gone or goes, and its record cannot be saved. -/
def unrecorded (q : ServiceRequest) (s : Records × Log services) :
    q.Answer × Records × Log services :=
  let a : q.Answer := match q with
    | .delete _ => .ok ()
    | .saveCluster _ => .error (.persistence "" Error.foreign)
    | q => q.refuse (.notFound "" "")
  (a, s.1, s.2 ++ [⟨q, a⟩])

theorem promptly_unrecorded (q : ServiceRequest) (s : Records × Log services) :
    Promptly .memory q s (unrecorded q s).1 (unrecorded q s).2 := by
  refine ⟨?_, rfl⟩
  cases q with
  | saveCluster c => exact .refused _ s.1
  | saveNodeGroup id g => exact .refused _ s.1
  | _ => exact .other _ s.1 id

theorem agrees_iff_sample :
    let d := Deployment.sample
    let c := { Cluster.sample .nil with status := .deleteInProgress }
    let k := Keeper.memory
    let records : Records := [(c.uuid, c)]
    k.Faithful c.uuid ∧ k.Holds c records ∧ (c.nodeGroups.map (·.name)).Nodup ∧
      ∃ r c' records' log, Reaches (Promptly k) ((Change.status.pass d).run.run c) (records, [])
          (.done (r, c')) (records', log) ∧ ¬k.Agrees c' records' ∧ Change.status.Spent d c' := by
  intro d c k records
  have faithful : k.Faithful c.uuid := Keeper.faithful_memory c.uuid
  have held : k.Holds c records := ⟨c, rfl, rfl⟩
  have distinct : (c.nodeGroups.map (·.name)).Nodup := by decide
  have reached := reaches_run promptly_unrecorded ((Change.status.pass d).run.run c) (records, [])
  have apart : ¬k.Agrees { c with status := .deleteComplete } records := by
    rintro ⟨stored, found, agrees⟩
    cases found
    cases agrees.status
  obtain ⟨agreeing, -, spent⟩ := agrees_iff faithful held distinct reached
  exact ⟨faithful, held, distinct, _, _, _, _, reached, apart,
    (spent (Classical.not_not.1 fun saved => apart (agreeing.2 saved))).2⟩

end

end ClusterLifecycle
