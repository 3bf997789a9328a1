import ClusterLifecycle.Proofs.CloudAccess

/-!
What status passes and deletions do to a cluster's access to the cloud.

* `Shrunk`: access is as it was, or it has been taken back, the credential before the secret;
* `keeps_revoke`: revoking leaves no credential;
* `keeps_updateClusterStatus`, `keeps_deleteCluster`: what they keep, wherever they fail.
-/

namespace ClusterLifecycle

namespace Cluster

/-- A later state of a record: the same cluster of the same owner. -/
structure Follows (c c' : Cluster) : Prop where
  uuid : c'.uuid = c.uuid
  userId : c'.userId = c.userId

theorem Follows.rfl {c : Cluster} : Follows c c := ⟨Eq.refl _, Eq.refl _⟩

theorem Follows.symm {c c' : Cluster} (h : Follows c c') : Follows c' c :=
  ⟨h.uuid.symm, h.userId.symm⟩

theorem Follows.trans {c c' c'' : Cluster} (h : Follows c c') (h' : Follows c' c'') :
    Follows c c'' :=
  ⟨h'.uuid.trans h.uuid, h'.userId.trans h.userId⟩

theorem Follows.secretRef {c c' : Cluster} (h : Follows c c') (d : Deployment) :
    d.secretRef c' = d.secretRef c := by
  simp only [Deployment.secretRef, ResourceKind.cloudConfigName, h.uuid]

theorem Follows.carries {c c' : Cluster} (h : Follows c c') (d : Deployment) (body : Json)
    (a : ApplicationCredential) : d.Carries c' body a ↔ d.Carries c body a := by
  simp only [Deployment.Carries, Deployment.secretManifest, Manifest.cloudConfigSecret,
    h.secretRef d, h.uuid]

theorem Follows.heldFor {ρ : Type} {c c' : Cluster} (h : Follows c c') (w : World ρ) :
    w.heldFor c' = w.heldFor c := by
  unfold World.heldFor
  rw [h.uuid, h.userId]

end Cluster

namespace World

open Operation

variable {ρ : Type} {d : Deployment} {c c' : Cluster} {w s : World ρ} {k : Keeper ρ}

/-- Access is as it was in `w`. -/
structure SameAccess (d : Deployment) (c : Cluster) (w s : World ρ) : Prop where
  secretless : s.secretless = w.secretless
  credential : s.heldFor c = w.heldFor c
  secret : s.object? (d.secretRef c) = w.object? (d.secretRef c)

theorem SameAccess.rfl : SameAccess d c w w := ⟨Eq.refl _, Eq.refl _, Eq.refl _⟩

theorem SameAccess.withRecords (h : SameAccess d c w s) (records : ρ) :
    SameAccess d c w { s with records } :=
  ⟨h.secretless, h.credential, h.secret⟩

theorem SameAccess.remove (h : SameAccess d c w s) {t : ObjectRef} (other : t ≠ d.secretRef c) :
    SameAccess d c w (s.remove t) where
  secretless := h.secretless
  credential := h.credential
  secret := (object?_remove_of_ne other.symm s).trans h.secret

/-- Access is as it was in `w`, or it has been taken back, the credential before the secret. -/
structure Shrunk (d : Deployment) (c : Cluster) (w s : World ρ) : Prop where
  secretless : s.secretless = w.secretless
  credential : s.heldFor c = w.heldFor c ∨ s.heldFor c = []
  secret : s.object? (d.secretRef c) = w.object? (d.secretRef c) ∨
    (s.object? (d.secretRef c) = none ∧ s.heldFor c = [])

theorem SameAccess.shrunk (h : SameAccess d c w s) : Shrunk d c w s :=
  ⟨h.secretless, .inl h.credential, .inl h.secret⟩

theorem Shrunk.withRecords (h : Shrunk d c w s) (records : ρ) :
    Shrunk d c w { s with records } :=
  ⟨h.secretless, h.credential, h.secret⟩

theorem Shrunk.remove (h : Shrunk d c w s) (gone : s.heldFor c = []) (t : ObjectRef) :
    Shrunk d c w (s.remove t) where
  secretless := h.secretless
  credential := h.credential
  secret := by
    by_cases ht : t = d.secretRef c
    · refine .inr ⟨?_, gone⟩
      rw [ht, object?_remove_self]
    · rw [object?_remove_of_ne (Ne.symm ht)]
      exact h.secret

/-- Requests of any kind. -/
abbrev Any : ServiceRequest → World ρ → Prop := fun _ _ => True

section
variable {E : Error → World ρ → Prop}

theorem keeps_revoke {faults : Error → Prop} (honest : ∀ e, faults e → Interruption e)
    (fails : ∀ e s, faults e → Shrunk d c w s → E e s) (h : Shrunk d c w s)
    (single : (s.heldFor c).length ≤ 1) :
    Keeps (MayAnswer faults k) (Admits Any (Shrunk d c w)) E
      (fun _ s' => Shrunk d c w s' ∧ s'.heldFor c = [] ∧ s'.objects = s.objects)
      (Credential.revoke c.userId c.uuid) s := by
  have failed := fails_of_honest honest fails
  unfold Credential.revoke
  rw [keeps_bind, keeps_orAbsent]
  refine keeps_findCredential (failed _) h trivial ?_ ?_
  · intro credential found
    have only : s.heldFor c = [credential] := held_of_find? single found
    have gone := held_revoke only
    have after : Shrunk d c w (s.revoke c.userId credential.id) :=
      ⟨h.secretless, .inr gone, h.secret.imp_right fun ⟨absent, _⟩ => ⟨absent, gone⟩⟩
    have member : credential ∈ s.heldFor c := by simp [only]
    rw [keeps_bind, keeps_orAbsent]
    exact keeps_deleteCredential (failed _) h (isHeld_of_held member) trivial after
      ⟨after, gone, rfl⟩
  · intro absent
    exact ⟨h, (held_eq_nil_iff s c.userId c.uuid.toString).2 absent, rfl⟩

variable (fails : ∀ e s, Shrunk d c w s → E e s)
include fails

/-- The secret goes only after the credential. -/
theorem keeps_deletePart {kind : ResourceKind} (h : Shrunk d c w s) (gone : s.heldFor c = []) :
    Keeps (MayAnswer Interruption k) (Admits Any (Shrunk d c w)) E
      (fun _ s => Shrunk d c w s ∧ s.heldFor c = []) (d.delete kind c none) s := by
  refine keeps_delete (fun e s _ hs => fails e s hs) h (fun e _ => fails e s h) ?_
  intro t _
  have after := h.remove gone t
  exact ⟨trivial, after, after, gone⟩

end

section
variable {faults : Error → Prop} {E : Error → World ρ → Prop} {J : World ρ → Prop}
  (fails : ∀ e s, faults e → J s → E e s)
  (closed : ∀ s t, t ≠ d.secretRef c → J s → J (s.remove t))
include fails closed

theorem keeps_deleteOther {kind : ResourceKind} {g : Option NodeGroup} {t : ObjectRef}
    (target : d.target kind c g = .ok t) (other : kind ≠ .cloudConfigSecret) (h : J s) :
    Keeps (MayAnswer faults k) (Admits Any J) E (fun _ => J) (d.delete kind c g) s := by
  refine keeps_delete fails h ?_ ?_
  · intro e unnamed
    rw [target] at unnamed
    cases unnamed
  · intro t target
    have after := closed s t (Deployment.target_ne_secret other target) h
    exact ⟨trivial, after, after⟩

theorem keeps_deleteNodeGroup (g : NodeGroup) (h : J s) :
    Keeps (MayAnswer faults k) (Admits Any J) E (fun _ => J) (d.deleteNodeGroup c g) s := by
  unfold Deployment.deleteNodeGroup
  cases g.role with
  | master =>
    refine (keeps_deleteOther fails closed (by rfl) (by decide) h).bind ?_
    intro _ s h
    exact keeps_deleteOther fails closed (by rfl) (by decide) h
  | worker =>
    refine (keeps_deleteOther fails closed (by rfl) (by decide) h).bind ?_
    intro _ s h
    refine (keeps_deleteOther fails closed (by rfl) (by decide) h).bind ?_
    intro _ s h
    exact keeps_deleteOther fails closed (by rfl) (by decide) h

end

/-- Access is as it was in `w`, and the cluster itself is gone. -/
def Cleared (d : Deployment) (c : Cluster) (w s : World ρ) : Prop :=
  SameAccess d c w s ∧ s.object? (d.clusterRef c) = none

theorem Cleared.remove (h : Cleared d c w s) {t : ObjectRef} (other : t ≠ d.secretRef c) :
    Cleared d c w (s.remove t) := by
  refine ⟨h.1.remove other, ?_⟩
  by_cases same : d.clusterRef c = t
  · rw [same, object?_remove_self]
  · rw [object?_remove_of_ne same, h.2]

/-- Deleting leaves access alone, and where it succeeds the cluster itself is gone. -/
theorem keeps_deleteCluster {faults : Error → Prop} {E : Error → World ρ → Prop}
    (fails : ∀ e s, faults e → SameAccess d c w s → E e s) (h : SameAccess d c w s) :
    Keeps (MayAnswer faults k) (Admits Any (SameAccess d c w)) E (fun _ => Cleared d c w)
      (d.deleteCluster c) s := by
  have target := d.target_cluster c none
  have other := Deployment.target_ne_secret (by decide) target
  unfold Deployment.deleteCluster
  refine Keeps.bind (B := fun _ => Cleared d c w) ?_ ?_
  · refine keeps_delete fails h (fun e unnamed => ?_) fun t ht => ?_
    · rw [target] at unnamed
      cases unnamed
    · cases target.symm.trans ht
      exact ⟨trivial, h.remove other, h.remove other, object?_remove_self s _⟩
  · intro _ s h
    have fails' (e : Error) (s : World ρ) (fault : faults e) (hs : Cleared d c w s) : E e s :=
      fails e s fault hs.1
    have closed (s : World ρ) (t : ObjectRef) (other : t ≠ d.secretRef c)
        (hs : Cleared d c w s) : Cleared d c w (s.remove t) := hs.remove other
    have rest : Keeps (MayAnswer faults k) (Admits Any (Cleared d c w)) E
        (fun _ => Cleared d c w) (do
          d.delete .openStackCluster c
          c.nodeGroups.forM fun g => d.deleteNodeGroup c g) s := by
      refine (keeps_deleteOther fails' closed (by rfl) (by decide) h).bind ?_
      intro _ s h
      exact keeps_forM _ _ (fun g _ s h => keeps_deleteNodeGroup fails' closed g h) h
    exact rest.mono (fun _ _ _ _ h => ⟨h.1, h.2.1⟩) (fun _ _ h => h) fun _ _ h => h

/-- Where a pass that leaves access alone may stop: at a later state of the record. -/
def Unmoved (d : Deployment) (c : Cluster) (w : World ρ) (c' : Cluster) (s : World ρ) : Prop :=
  c.Follows c' ∧ SameAccess d c w s

/-- Where any pass may stop. -/
def Stopped (d : Deployment) (c : Cluster) (w : World ρ) (c' : Cluster) (s : World ρ) : Prop :=
  c.Follows c' ∧ Shrunk d c w s

section
variable {E : Error → World ρ → Prop} (fails : ∀ e s, SameAccess d c w s → E e s)
include fails

/-- Whatever a look at an object shows, access is as it was. -/
theorem keeps_look {kind : ResourceKind} {g : Option NodeGroup} (h : SameAccess d c w s) :
    Keeps (MayAnswer Interruption k) (Admits Any (SameAccess d c w)) E
      (fun _ => SameAccess d c w) (d.fetch kind c' g) s := by
  refine keeps_fetch (fun e s _ hs => fails e s hs) h (fun _ => trivial) ?_
  cases s.fetched d kind c' g with
  | ok o => exact h
  | error e => exact fails e s h

theorem keeps_given {α : Type} {P : α → World ρ → Prop} (r : Result α) (h : SameAccess d c w s)
    (ok : ∀ a, P a s) : Ends E P r s := by
  cases r with
  | ok a => exact ok a
  | error e => exact fails e s h

theorem keeps_updateNodeGroupStatus (g : NodeGroup) (h : SameAccess d c w s) :
    Keeps (MayAnswer Interruption k) (Admits Any (SameAccess d c w)) E
      (fun _ => SameAccess d c w) (d.updateNodeGroupStatus c' g) s := by
  unfold Deployment.updateNodeGroupStatus
  have observed : Keeps (MayAnswer Interruption k) (Admits Any (SameAccess d c w)) E
      (fun _ => SameAccess d c w) (d.observeNodeGroup c' g) s := by
    unfold Deployment.observeNodeGroup
    cases g.role with
    | master =>
      refine (keeps_look fails h).bind fun o s h => (keeps_bind _ _).2 ?_
      exact (keeps_result _).2 (keeps_given fails _ h fun _ => h)
    | worker =>
      refine (keeps_look fails h).bind fun o s h => (keeps_bind _ _).2 ?_
      exact (keeps_result _).2 (keeps_given fails _ h fun _ => h)
  refine observed.bind fun g s h => (keeps_bind _ _).2 ?_
  have after := h.withRecords (k.saveNodeGroup c'.uuid g s.records).2
  exact keeps_saveNodeGroup (fun e s _ hs => fails e s hs) h trivial after
    (keeps_given fails _ after fun _ => after)

theorem keeps_runningVersion (h : SameAccess d c w s) :
    Keeps (MayAnswer Interruption k) (Admits Any (SameAccess d c w)) E
      (fun _ => SameAccess d c w) (d.runningVersion c') s := by
  unfold Deployment.runningVersion
  generalize (none : Option String) = version
  induction c'.masters generalizing version s with
  | nil => exact h
  | cons g rest ih =>
    refine Keeps.bind (B := fun _ => SameAccess d c w) ?_ fun version s h => ih h version
    refine (keeps_look fails h).bind fun o s h => (keeps_bind _ _).2 ?_
    refine (keeps_result _).2 (keeps_given fails _ h fun o => (keeps_bind _ _).2 ?_)
    exact (keeps_result _).2 (keeps_given fails _ h fun _ => h)

end

theorem keeps_settleGroups (done groups : List NodeGroup) (h : Unmoved d c w c' s) :
    Pass.Keeps (MayAnswer Interruption k) (Admits Any (SameAccess d c w))
      (fun _ => Unmoved d c w) (fun _ => Unmoved d c w) (d.settleGroups done groups) c' s := by
  induction groups generalizing done c' s with
  | nil => exact h
  | cons g rest ih =>
    unfold Deployment.settleGroups
    rw [Pass.keeps_bind, Pass.keeps_get, Pass.keeps_bind, Pass.keeps_lift]
    refine (keeps_updateNodeGroupStatus (fun _ _ hs => ⟨h.1, hs⟩) g h.2).mono
      (fun _ _ _ _ h => h) (fun _ _ h => h) ?_
    intro g s hs
    rw [Pass.keeps_bind, Pass.keeps_modify]
    have after : Unmoved d c w { c' with nodeGroups := done ++ g :: rest } s := ⟨⟨h.1.1, h.1.2⟩, hs⟩
    split
    · exact ih (done ++ [g]) after
    · exact after

theorem keeps_saveLast (h : Shrunk d c w s) (follows : c.Follows c') :
    Pass.Keeps (MayAnswer Interruption k) (Admits Any (Shrunk d c w)) (fun _ => Stopped d c w)
      (fun _ => Stopped d c w) (liftM (saveCluster c')) c' s := by
  have after := h.withRecords (k.save c' s.records).2
  rw [Pass.keeps_lift]
  refine keeps_saveCluster (fun _ _ _ hs => ⟨follows, hs⟩) h trivial after ?_
  cases (k.save c' s.records).1 with
  | ok => exact ⟨follows, after⟩
  | error => exact ⟨follows, after⟩

theorem keeps_provisioningPass (w : World ρ) :
    Pass.Keeps (MayAnswer Interruption k) (Admits Any (Shrunk d c w)) (fun _ => Stopped d c w)
      (fun _ => Stopped d c w) d.provisioningPass c w := by
  have same : SameAccess d c w w := .rfl
  have fails (e : Error) (s : World ρ) (hs : SameAccess d c w s) : Stopped d c w c s :=
    ⟨.rfl, hs.shrunk⟩
  unfold Deployment.provisioningPass
  rw [Pass.keeps_bind, Pass.keeps_get, Pass.keeps_bind, Pass.keeps_lift]
  refine (keeps_look fails same).mono (fun _ _ _ _ h => ⟨h.1, h.2.shrunk⟩) (fun _ _ h => h) ?_
  intro o s h
  refine (Pass.keeps_bind _ _).2 ((Pass.keeps_result _).2 (keeps_given fails _ h ?_))
  intro o
  split
  next ready =>
    refine (Pass.keeps_bind _ _).2 ((Pass.keeps_result _).2 (keeps_given fails _ h ?_))
    intro a
    refine Pass.Keeps.bind (B := fun _ => Unmoved d c w) ?_ fun settled c' s ⟨follows, h⟩ => ?_
    · exact (keeps_settleGroups [] c.nodeGroups ⟨.rfl, h⟩).mono
        (fun _ _ _ _ h => ⟨h.1, h.2.shrunk⟩) (fun _ _ _ h => ⟨h.1, h.2.shrunk⟩) fun _ _ _ h => h
    cases settled with
    | false => exact ⟨follows, h.shrunk⟩
    | true =>
      rw [if_pos rfl, Pass.keeps_bind, Pass.keeps_get, Pass.keeps_bind, Pass.keeps_lift]
      refine (keeps_runningVersion (fun _ s hs => ⟨follows, hs.shrunk⟩) h).mono
        (fun _ _ _ _ h => ⟨h.1, h.2.shrunk⟩) (fun _ _ h => h) ?_
      intro version s h
      rw [Pass.keeps_bind, Pass.keeps_set]
      exact keeps_saveLast h.shrunk ⟨follows.uuid, follows.userId⟩
  next => exact ⟨.rfl, h.shrunk⟩

theorem keeps_teardownPass (single : (w.heldFor c).length ≤ 1) :
    Pass.Keeps (MayAnswer Interruption k) (Admits Any (Shrunk d c w)) (fun _ => Stopped d c w)
      (fun _ => Stopped d c w) d.teardownPass c w := by
  have start : Shrunk d c w w := SameAccess.rfl.shrunk
  have fails (e : Error) (s : World ρ) (hs : Shrunk d c w s) : Stopped d c w c s := ⟨.rfl, hs⟩
  unfold Deployment.teardownPass
  rw [Pass.keeps_bind, Pass.keeps_get, Pass.keeps_bind, Pass.keeps_lift]
  refine keeps_isPresent (fun _ h => h) (fun e s _ hs => fails e s hs) (d.target_cluster c none)
    (fun _ => trivial) start ?_
  cases (w.object? (d.clusterRef c)).isSome with
  | true => exact ⟨.rfl, start⟩
  | false =>
    rw [if_neg (by decide), Pass.keeps_bind, Pass.keeps_lift]
    refine (keeps_revoke (fun _ h => h) (fun e s _ hs => fails e s hs) start single).mono
      (fun _ _ _ _ h => h) (fun _ _ h => h) ?_
    rintro _ s ⟨h, gone, _⟩
    have deleted : Pass.Keeps (MayAnswer Interruption k) (Admits Any (Shrunk d c w))
        (fun _ => Stopped d c w) (fun _ c' s => c' = c ∧ Shrunk d c w s ∧ s.heldFor c = [])
        ((ResourceKind.cloudConfigSecret :: ResourceKind.authorities).forM fun k =>
          (d.delete k c : Pass Unit)) c s := by
      refine Pass.keeps_forM _ _ ?_ ⟨rfl, h, gone⟩
      rintro kind _ c' s ⟨same, h, gone⟩
      subst same
      rw [Pass.keeps_lift]
      exact (keeps_deletePart fails h gone).mono (fun _ _ _ _ h => h) (fun _ _ h => h)
        fun _ s h => ⟨rfl, h⟩
    apply deleted.bind
    rintro _ c' s ⟨same, h, _⟩
    rw [Pass.keeps_bind, Pass.keeps_set]
    exact keeps_saveLast h ⟨rfl, rfl⟩

theorem keeps_updateClusterStatus (single : (w.heldFor c).length ≤ 1) :
    Pass.Keeps (MayAnswer Interruption k) (Admits Any (Shrunk d c w)) (fun _ => Stopped d c w)
      (fun _ => Stopped d c w) d.updateClusterStatus c w := by
  unfold Deployment.updateClusterStatus
  rw [Pass.keeps_bind, Pass.keeps_get]
  split
  · cases c.status.action with
    | create | update => exact keeps_provisioningPass w
    | delete => exact keeps_teardownPass single
  · exact ⟨.rfl, SameAccess.rfl.shrunk⟩

end World

end ClusterLifecycle
