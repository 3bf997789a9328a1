import Mathlib.Data.List.Forall2
import ClusterLifecycle.Proofs.Dismantling
import ClusterLifecycle.Proofs.Sharing

/-!
What is left of a cluster that has been created and taken down again.

* `Thinned`: the objects at every point of a deletion, whatever becomes of credentials;
* `owns_or_foundation`: what creating applies is owned by the cluster or lies in its foundation, and
  no object is both;
* `leftovers_exact`: the objects of the foundation stay, and nothing else.
-/

namespace ClusterLifecycle

open Program Operation

namespace NodeGroup

theorem mem_parts {g : NodeGroup} {p : Part} :
    p ∈ g.parts true ↔ p ∈ g.parts false ∨ g.role = .worker ∧ p = (.workerTemplate, none) := by
  unfold parts
  cases g.role
  · simp
  · simp
    grind

theorem mem_parts_of_false {g : NodeGroup} {p : Part} (shared : Bool) (h : p ∈ g.parts false) :
    p ∈ g.parts shared := by
  cases shared with
  | false => exact h
  | true => exact mem_parts.2 (.inl h)

theorem mem_parts_true {g : NodeGroup} {p : Part} {shared : Bool} (h : p ∈ g.parts shared) :
    p ∈ g.parts true := by
  cases shared with
  | false => exact mem_parts_of_false true h
  | true => exact h

theorem exists_of_mem_allParts {groups : List NodeGroup} {p : Part} {shared : Bool}
    (member : p ∈ allParts shared groups) : ∃ g ∈ groups, p ∈ g.parts true := by
  induction groups generalizing shared with
  | nil => cases member
  | cons g rest ih =>
    rcases List.mem_append.1 member with here | later
    · exact ⟨g, List.mem_cons_self, mem_parts_true here⟩
    · obtain ⟨h, there, own⟩ := ih later
      exact ⟨h, List.mem_cons_of_mem g there, own⟩

theorem mem_allParts_of_false {groups : List NodeGroup} {g : NodeGroup} {p : Part} (shared : Bool)
    (member : g ∈ groups) (own : p ∈ g.parts false) : p ∈ allParts shared groups := by
  induction groups generalizing shared with
  | nil => cases member
  | cons h rest ih =>
    rcases List.mem_cons.1 member with rfl | later
    · exact List.mem_append_left _ (mem_parts_of_false _ own)
    · exact List.mem_append_right _ (ih _ later)

/-- The objects of groups together are those of each of them. -/
theorem mem_allParts {groups : List NodeGroup} {p : Part} :
    p ∈ allParts true groups ↔ ∃ g ∈ groups, p ∈ g.parts true := by
  refine ⟨exists_of_mem_allParts, ?_⟩
  rintro ⟨g, member, own⟩
  rcases mem_parts.1 own with alone | ⟨role, rfl⟩
  · exact mem_allParts_of_false true member alone
  · exact workerTemplate_mem_allParts member role

end NodeGroup

/-- The request is to change no object. -/
def ServiceRequest.Spares : ServiceRequest → Prop
  | apply _ | delete _ => False
  | _ => True

namespace World

theorem objects_spared {ρ : Type} {faults : Error → Prop} {k : Keeper ρ} {q : ServiceRequest}
    {a : q.Answer} {w w' : World ρ} (spares : q.Spares) (h : MayAnswer faults k q w a w') :
    w'.objects = w.objects := by
  have served : (w.answer k q).2.objects = w.objects := by
    cases q with
    | apply | delete => exact spares.elim
    | deleteCredential user id =>
      rw [answer]
      split <;> rfl
    | _ => rfl
  cases h with
  | answered | lost => exact served
  | refused => rfl

variable {ρ : Type} {k : Keeper ρ} {d : Deployment} {c c' : Cluster} {gone : ObjectRef → Prop}
  {w₀ w w' s : World ρ} {t : ObjectRef}

/-- Objects of the cluster may be gone, and those of `gone` are. -/
structure Thinned (d : Deployment) (c : Cluster) (gone : ObjectRef → Prop) (w₀ s : World ρ) :
    Prop where
  objects : Reduced (d.Owns c) w₀ s
  gone : ∀ t, gone t → s.object? t = none

theorem Dwindled.thinned {revoked : Prop} {credentials : List HeldCredential}
    (h : Dwindled d c gone revoked { w₀ with credentials } s) : Thinned d c gone w₀ s :=
  ⟨h.objects, h.gone⟩

theorem Thinned.dwindled (h : Thinned d c gone w₀ s) :
    Dwindled d c gone False { w₀ with credentials := s.credentials } s :=
  ⟨h.objects, .inl rfl, h.gone, False.elim⟩

theorem Thinned.remove (h : Thinned d c gone w₀ s) (mine : d.Owns c t) :
    Thinned d c gone w₀ (s.remove t) :=
  (h.dwindled.remove mine).thinned

theorem Thinned.mono {gone' : ObjectRef → Prop} (h : Thinned d c gone w₀ s)
    (fewer : ∀ t, gone' t → gone t) : Thinned d c gone' w₀ s :=
  ⟨h.objects, fun t was => h.gone t (fewer t was)⟩

theorem Thinned.of_objects (h : Thinned d c gone w₀ s) (same : w.objects = s.objects) :
    Thinned d c gone w₀ w := by
  have object (t : ObjectRef) : w.object? t = s.object? t := by rw [object?, object?, same]
  exact ⟨fun t => by rw [object t]; exact h.objects t, fun t was => (object t).trans (h.gone t was)⟩

/-- Requests that are for no object leave the objects as they are. -/
theorem thinned_meanwhile {q : ServiceRequest} {a : q.Answer} (spares : q.Spares)
    (h : Thinned d c gone w₀ s) (replied : Meanwhile k (d.clusterRef c) q s a w) :
    Thinned d c gone w₀ w := by
  cases replied with
  | directly one => exact h.of_objects (objects_spared spares one)
  | reconciled one =>
    exact (h.remove (owns_clusterRef d c)).of_objects (objects_spared spares one)
  | pending => exact h

theorem thins_deleteCluster (h : Thinned d c gone w₀ s) :
    Keeps (Meanwhile k (d.clusterRef c)) (Admits Any (Thinned d c gone w₀))
      (fun _ => Thinned d c gone w₀)
      (fun _ => Thinned d c (fun t => gone t ∨ (d.Among c c.frame t ∧ t ≠ d.clusterRef c)) w₀)
      (d.deleteCluster c) s :=
  (dwindles_deleteCluster h.dwindled).mono (fun _ _ _ _ kept => ⟨trivial, kept.2.thinned⟩)
    (fun _ _ now => now.thinned) fun _ _ now => now.thinned

theorem thins_revoke (h : Thinned d c gone w₀ s) :
    Keeps (Meanwhile k (d.clusterRef c)) (Admits Any (Thinned d c gone w₀))
      (fun _ => Thinned d c gone w₀) (fun _ => Thinned d c gone w₀)
      (Credential.revoke c.userId c.uuid) s := by
  have only : Only ServiceRequest.Spares Anything (Credential.revoke c.userId c.uuid) :=
    Credential.only_revoke trivial fun _ => trivial
  have keeps := only.keeps (R := Meanwhile k (d.clusterRef c))
    (T := Admits Any (Thinned d c gone w₀)) (J := Thinned d c gone w₀)
    (fun q s a s' spares now replied =>
      have after := thinned_meanwhile spares now replied
      ⟨⟨trivial, after⟩, after⟩) h
  exact keeps.imp_ok fun _ _ now => now.2

/-- Where a pass over a cluster that is being deleted declares it deleted, the secrets are gone too,
and so is the cluster itself. -/
def Emptied (d : Deployment) (c : Cluster) (gone : ObjectRef → Prop) (w₀ : World ρ) (c' : Cluster)
    (s : World ρ) : Prop :=
  c'.status = .deleteComplete →
    Thinned d c (fun t => Found d c gone t ∨ d.Among c Deployment.accessParts t) w₀ s

theorem thins_teardownPass (deleting : c.status = .deleteInProgress)
    (h : Thinned d c gone w₀ s) :
    Pass.Keeps (Meanwhile k (d.clusterRef c)) (Admits Any (Thinned d c gone w₀))
      (fun _ => Emptied d c gone w₀) (fun _ => Emptied d c gone w₀) d.teardownPass c s := by
  have waiting (s : World ρ) : Emptied d c gone w₀ c s := by
    intro is
    rw [deleting] at is
    cases is
  have sooner (s : World ρ) (now : Thinned d c (Found d c gone) w₀ s) : Thinned d c gone w₀ s :=
    now.mono fun _ => .inl
  rw [Pass.keeps_teardownPass_iff]
  refine (dwindles_look h.dwindled).mono (fun _ _ _ _ kept => ⟨trivial, kept.2.thinned⟩)
    (fun _ s _ => waiting s) ?_
  rintro present s ⟨now, absent⟩
  cases present with
  | true => exact waiting s
  | false =>
    have found : Thinned d c (Found d c gone) w₀ s := (now.and fun t is => by
      rw [is]
      exact absent rfl).thinned
    refine (thins_revoke found).mono (fun _ _ _ _ kept => ⟨trivial, sooner _ kept.2⟩)
      (fun _ s _ => waiting s) fun _ s now => ?_
    have deletes := keeps_deleteParts (d := d) (c := c) Deployment.named_accessParts
      (fun t mine => Dwindled.removes (k := k) (Deployment.owns_iff.2 (.inr mine)))
      (fun _ _ now => now) now.dwindled
    refine Keeps.mono deletes (fun _ _ _ _ kept => ⟨trivial, sooner _ kept.2.thinned⟩)
      (fun _ s _ => waiting s) ?_
    rintro _ s ⟨now, all, -⟩
    have emptied : Thinned d c (fun t => Found d c gone t ∨ d.Among c Deployment.accessParts t) w₀
        s := by
      refine (now.and fun t mine => ?_).thinned
      by_cases is : t = d.clusterRef c
      · exact now.gone t (.inr is)
      · exact all t mine is
    intro c' a s' replied
    have spares : (ServiceRequest.saveCluster c').Spares := trivial
    have after := thinned_meanwhile spares emptied replied
    refine ⟨⟨trivial, after.mono fun _ was => .inl (.inl was)⟩, ?_⟩
    cases a with
    | ok u => exact fun _ => after
    | error e => exact fun _ => after

theorem thins_updateClusterStatus (deleting : c.status.action = .delete)
    (h : Thinned d c gone w₀ s) :
    Pass.Keeps (Meanwhile k (d.clusterRef c)) (Admits Any (Thinned d c gone w₀))
      (fun _ c' s => c.status = .deleteInProgress → Emptied d c gone w₀ c' s)
      (fun _ c' s => c.status = .deleteInProgress → Emptied d c gone w₀ c' s)
      d.updateClusterStatus c s := by
  unfold Deployment.updateClusterStatus
  rw [Pass.keeps_bind, Pass.keeps_get]
  split
  next unsettled =>
    have status : c.status = .deleteInProgress := by
      cases whole : c.status with
      | mk action phase =>
        rw [whole] at deleting unsettled
        cases deleting
        cases unsettled
        rfl
    rw [deleting]
    exact (thins_teardownPass status h).imp (fun _ _ _ emptied _ => emptied)
      fun _ _ _ emptied _ => emptied
  next settled =>
    intro status
    rw [status] at settled
    exact absurd rfl settled

theorem thinned_remains (h : c.Remains c') : Thinned d c' gone w₀ s ↔ Thinned d c gone w₀ s := by
  have owns := Deployment.owns_remains (d := d) h
  constructor
  · rintro ⟨objects, gone⟩
    rw [owns] at objects
    exact ⟨objects, gone⟩
  · rintro ⟨objects, gone⟩
    rw [← owns] at objects
    exact ⟨objects, gone⟩

theorem Dismantled.thinned {asked : Bool} (h : Dismantled k d c w₀ asked w) :
    Thinned d c (Asked d c asked) w₀ w := by
  induction h with
  | start => exact ⟨.rfl, fun t is => absurd is.1 (by decide)⟩
  | cut _ remains reached ih =>
    rw [Deployment.deleteCluster_remains remains] at reached
    exact throughout ih (thins_deleteCluster ih) reached
  | deleted _ remains reached ih =>
    rw [Deployment.deleteCluster_remains remains] at reached
    exact ((thins_deleteCluster ih).at_ok reached).mono fun t is => .inr is.2
  | pass _ remains deleting reached ih =>
    rw [← Deployment.clusterRef_remains remains] at reached
    have ih' := (thinned_remains remains).2 ih
    have after := throughout ih' (thins_updateClusterStatus deleting ih') reached
    exact (thinned_remains remains).1 after
  | reconciled _ ih => exact ih.remove (owns_clusterRef d _)
  | recorded records _ ih => exact ih.of_objects rfl

/-- What creating a cluster applies is its own, or lies in its foundation. -/
theorem owns_or_foundation :
    d.Among c ((c.foundation ++ [(.cloudConfigSecret, none)]) ++ c.superstructure) t ↔
      d.Owns c t ∨ d.Among c c.foundation t := by
  have superstructure (p : Part) : p ∈ [(.cloudConfigSecret, none)] ++ c.superstructure ↔
      (∃ k ∈ [.cluster, .openStackCluster] ++ Deployment.accessKinds, (k, none) = p) ∨
        ∃ g ∈ c.nodeGroups, p ∈ g.parts true := by
    rw [← NodeGroup.mem_allParts]
    simp only [Cluster.superstructure, Deployment.accessKinds, ResourceKind.authorities]
    grind
  rw [List.append_assoc]
  constructor
  · rintro ⟨p, member, target⟩
    rcases List.mem_append.1 member with founded | built
    · exact .inr ⟨p, founded, target⟩
    · rcases (superstructure p).1 built with ⟨k, kind, rfl⟩ | ⟨g, mine, own⟩
      · exact .inl (.inl ⟨k, kind, target⟩)
      · exact .inl (.inr ⟨g, mine, p, own, target⟩)
  · rintro ((⟨k, kind, target⟩ | ⟨g, mine, p, own, target⟩) | ⟨p, founded, target⟩)
    · have built := (superstructure (k, none)).2 (.inl ⟨k, kind, rfl⟩)
      exact ⟨(k, none), List.mem_append_right _ built, target⟩
    · have built := (superstructure p).2 (.inr ⟨g, mine, own⟩)
      exact ⟨p, List.mem_append_right _ built, target⟩
    · exact ⟨p, List.mem_append_left _ founded, target⟩

/-- The kinds of object that a foundation is made of. -/
theorem kind_foundation {p : Part} (member : p ∈ c.foundation) :
    p.1 ∈ [.sharedNamespace, .controllerManagerConfig, .controllerManagerResourceSet, .cniConfig,
      .cniResourceSet] := by
  revert member
  unfold Cluster.foundation
  split <;> simp <;> grind

theorem not_owns_foundation (h : d.Among c c.foundation t) : ¬d.Owns c t := by
  obtain ⟨p, member, target⟩ := h
  have founded := kind_foundation member
  rintro (⟨k, kind, target'⟩ | ⟨g, -, q, own, target'⟩)
  · rw [(Deployment.target_injective target target').1] at founded
    revert kind founded
    cases k <;> decide
  · rw [(Deployment.target_injective target target').1] at founded
    have group := Deployment.ofGroups_allParts
      (NodeGroup.mem_allParts.2 ⟨g, List.mem_singleton_self g, own⟩)
    revert group founded
    cases q.1 <;> decide

/-- A cluster that has been created where it had no objects, and of which a pass then declares that
it has been deleted, leaves the objects of its foundation and nothing else. -/
theorem leftovers_exact {w₁ w₂ w₃ : World ρ} {c'' : Cluster} {r : Result Unit}
    (absent : ∀ t, d.Owns c t → w₀.object? t = none)
    (created : Reaches (MayAnswer Interruption k) (d.createCluster c).run w₀ (.done (.ok ())) w₁)
    (dismantled : Dismantled k d c w₁ true w₂) (remains : c.Remains c')
    (deleting : c'.status = .deleteInProgress)
    (reached : Reaches (Meanwhile k (d.clusterRef c)) (d.updateClusterStatus.run.run c') w₂
      (.done (r, c'')) w₃) (complete : c''.status = .deleteComplete) :
    ∀ t, (w₃.object? t).isSome ↔ (w₀.object? t).isSome ∨ d.Among c c.foundation t := by
  have joined := (yields_createCluster w₀).at_ok created
  rw [← Deployment.clusterRef_remains remains] at reached
  have before := (thinned_remains remains).2 dismantled.thinned
  have pass := thins_updateClusterStatus (k := k) (congrArg Status.action deleting) before
  have emptied : Emptied d c' (Asked d c true) w₁ c'' w₃ := by
    have ends := Ensures.at_end pass reached
    cases r with
    | ok u => exact ends deleting
    | error e => exact ends deleting
  have final := (thinned_remains remains).1 (emptied complete)
  have own (t : ObjectRef) (mine : d.Owns c t) : w₃.object? t = none := by
    refine final.gone t ?_
    by_cases is : t = d.clusterRef c
    · rw [is, ← Deployment.clusterRef_remains remains]
      exact .inl (.inr rfl)
    · rcases Deployment.owns_iff.1 mine with frame | access
      · exact .inl (.inl ⟨rfl, frame, is⟩)
      · obtain ⟨p, member, target⟩ := access
        exact .inr ⟨p, member, (Deployment.target_remains remains _ _).trans target⟩
  intro t
  by_cases mine : d.Owns c t
  · have none := own t mine
    have before := absent t mine
    have apart : ¬d.Among c c.foundation t := fun founded => not_owns_foundation founded mine
    simp [none, before, apart]
  · rw [final.objects.elsewhere mine, joined t, owns_or_foundation]
    simp [mine]

/-- A world in which a cluster has been created, and nothing else. -/
def sampleCreated : World Records :=
  ((Deployment.sample.createCluster (.completeSample .nil)).run.run (answer .memory)
    { records := [] }).2

/-- The same world once the deletion of the cluster has been asked for. -/
def sampleDeleted : World Records :=
  ((Deployment.sample.deleteCluster (.completeSample .nil)).run.run (answer .memory)
    sampleCreated).2

theorem leftovers_exact_sample :
    let d := Deployment.sample
    let c := Cluster.completeSample .nil
    let c' := { c with status := .deleteInProgress }
    let k := Keeper.memory
    let w₀ : World Records := { records := [] }
    ∃ w₁ w₂ w₃ c'' r, (∀ t, d.Owns c t → w₀.object? t = none) ∧
      Reaches (MayAnswer Interruption k) (d.createCluster c).run w₀ (.done (.ok ())) w₁ ∧
      Dismantled k d c w₁ true w₂ ∧
      Reaches (Meanwhile k (d.clusterRef c)) (d.updateClusterStatus.run.run c') w₂
        (.done (r, c'')) w₃ ∧ c''.status = .deleteComplete ∧
      ∀ t, (w₃.object? t).isSome ↔ d.Among c c.foundation t := by
  intro d c c' k w₀
  have acts (q : ServiceRequest) (w : World Records) :
      Meanwhile k (d.clusterRef c) q w (w.answer k q).1 (w.answer k q).2 := .directly .answered
  have created : ((d.createCluster c).run.run (answer k) w₀).1 = .ok () := by decide +kernel
  have deleted : ((d.deleteCluster c).run.run (answer k) sampleCreated).1 = .ok () := by
    decide +kernel
  have creates : Reaches (MayAnswer Interruption k) (d.createCluster c).run w₀
      (.done (.ok ())) sampleCreated :=
    created ▸ reaches_run (fun _ _ => .answered) (d.createCluster c).run w₀
  have deletes : Reaches (Meanwhile k (d.clusterRef c)) (d.deleteCluster c).run sampleCreated
      (.done (.ok ())) sampleDeleted :=
    deleted ▸ reaches_run acts (d.deleteCluster c).run sampleCreated
  have dismantled : Dismantled k d c sampleCreated true sampleDeleted :=
    Dismantled.start.deleted .rfl deletes
  have remains : c.Remains c' := ⟨⟨rfl, rfl⟩, rfl, rfl⟩
  have passes := reaches_run acts (d.updateClusterStatus.run.run c') sampleDeleted
  have complete : ((d.updateClusterStatus.run.run c').run (answer k) sampleDeleted).1.2.status =
      .deleteComplete := by decide +kernel
  have absent (t : ObjectRef) (_ : d.Owns c t) : w₀.object? t = none := rfl
  cases ran : (d.updateClusterStatus.run.run c').run (answer k) sampleDeleted with
  | mk result w₃ =>
    obtain ⟨r, c''⟩ := result
    rw [ran] at passes complete
    have left := leftovers_exact absent creates dismantled remains rfl passes complete
    refine ⟨_, _, w₃, c'', r, absent, creates, dismantled, passes, complete, fun t => ?_⟩
    rw [left t]
    exact or_iff_right (by simp [w₀, object?])

end World

end ClusterLifecycle
