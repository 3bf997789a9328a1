import ClusterLifecycle.Proofs.Removal
import ClusterLifecycle.Proofs.Takedown
import ClusterLifecycle.Proofs.Teardown

/-!
What is left once a cluster has been taken down, however often its deletion was cut short.

* `Owns`: the objects that belong to a cluster and to nothing else;
* `Meanwhile`: calls are answered while the cluster itself may go at any time;
* `Dwindled`: what every point of a deletion keeps, with what is known to be gone;
* `Dismantled`: deletions and status passes, each of which may be cut short;
* `dismantling_exact`: where a pass declares the cluster deleted, exactly its own objects are gone and
  its own credential, and another deletion changes nothing.
-/

namespace ClusterLifecycle

open Program Operation

/-- A later state of a record of the same groups. -/
structure Cluster.Remains (c c' : Cluster) : Prop extends c.Follows c' where
  template : c'.template = c.template
  nodeGroups : c'.nodeGroups = c.nodeGroups

theorem Cluster.Remains.rfl {c : Cluster} : c.Remains c := ⟨.rfl, Eq.refl _, Eq.refl _⟩

namespace Deployment

variable {d : Deployment} {c c' : Cluster} {t : ObjectRef}

/-- The objects that belong to a cluster and to nothing else: what stands for it, the secrets that it
reaches the cloud with, and the objects of its groups. -/
def Owns (d : Deployment) (c : Cluster) (t : ObjectRef) : Prop :=
  (∃ k ∈ [.cluster, .openStackCluster] ++ accessKinds, d.target k c none = .ok t) ∨
    ∃ g ∈ c.nodeGroups, d.Among c (g.parts true) t

/-- What goes only with the last pass. -/
def accessParts : List Part := accessKinds.map (·, none)

theorem named_accessParts : ∀ p ∈ accessParts, Grouped p.1 → p.2.isSome := by
  simp [accessParts, accessKinds, ResourceKind.authorities, Grouped]

theorem among_accessParts :
    d.Among c accessParts t ↔ ∃ k ∈ accessKinds, d.target k c none = .ok t := by
  constructor
  · rintro ⟨p, member, target⟩
    obtain ⟨k, kind, rfl⟩ := List.mem_map.1 member
    exact ⟨k, kind, target⟩
  · rintro ⟨k, kind, target⟩
    exact ⟨(k, none), List.mem_map_of_mem kind, target⟩

/-- What a cluster owns is deleted when its deletion is asked for, or with the last pass. -/
theorem owns_iff : d.Owns c t ↔ d.Among c c.frame t ∨ d.Among c accessParts t := by
  have frame : d.Among c c.frame t ↔
      (∃ k ∈ [.cluster, .openStackCluster], d.target k c none = .ok t) ∨
        ∃ g ∈ c.nodeGroups, d.Among c (g.parts true) t := by
    simp only [Among, Cluster.frame, List.mem_cons, List.mem_flatMap, List.mem_reverse]
    constructor
    · rintro ⟨p, rfl | rfl | ⟨g, member, own⟩, target⟩
      · exact .inl ⟨_, .inl rfl, target⟩
      · exact .inl ⟨_, .inr (.inl rfl), target⟩
      · exact .inr ⟨g, member, p, own, target⟩
    · rintro (⟨k, rfl | rfl | none, target⟩ | ⟨g, member, p, own, target⟩)
      · exact ⟨_, .inl rfl, target⟩
      · exact ⟨_, .inr (.inl rfl), target⟩
      · cases none
      · exact ⟨p, .inr (.inr ⟨g, member, own⟩), target⟩
  rw [frame, among_accessParts, Owns]
  simp only [List.mem_append, or_and_right, exists_or]
  exact or_right_comm

theorem target_remains (h : c.Remains c') (k : ResourceKind) (g : Option NodeGroup) :
    d.target k c' g = d.target k c g := by
  simp only [target, ResourceKind.ref, ResourceKind.objectName, ResourceKind.groupObjectName,
    ResourceKind.cloudConfigName, h.uuid, h.template]

theorem deletePart_remains (h : c.Remains c') : d.deletePart c' = d.deletePart c := by
  funext p
  unfold deletePart delete
  rw [target_remains h]

theorem deleteCluster_remains (h : c.Remains c') : d.deleteCluster c' = d.deleteCluster c := by
  rw [deleteCluster_eq, deleteCluster_eq, deletePart_remains h, Cluster.frame, Cluster.frame,
    h.nodeGroups]

theorem owns_remains (h : c.Remains c') : d.Owns c' = d.Owns c := by
  funext t
  simp only [Owns, Among, target_remains h, h.nodeGroups]

theorem clusterRef_remains (h : c.Remains c') : d.clusterRef c' = d.clusterRef c := by
  rw [clusterRef, clusterRef, h.uuid]

end Deployment

namespace World

variable {ρ : Type}

/-- Credentials are kept by their user and name, and by their user and identity. -/
structure Keyed (w : World ρ) : Prop where
  names : ∀ h ∈ w.credentials, ∀ h' ∈ w.credentials, h.user = h'.user →
    h.credential.name = h'.credential.name → h = h'
  ids : ∀ h ∈ w.credentials, ∀ h' ∈ w.credentials, h.user = h'.user →
    h.credential.id = h'.credential.id → h = h'

/-- The credentials that are not the cluster's. -/
def others (w : World ρ) (c : Cluster) : List HeldCredential :=
  w.credentials.filter fun h => !(h.user = c.userId && h.credential.name = c.uuid.toString)

theorem heldFor_others {c : Cluster} {w w' : World ρ} (h : w'.credentials = w.others c) :
    w'.heldFor c = [] := by
  rw [heldFor, held, h, others, List.filter_filter, List.map_eq_nil_iff, List.filter_eq_nil_iff]
  intro x _
  simp

/-- Calls are answered as they may be, while the object may go at any time, whether or not its
deletion has been asked for; asking for it may leave the object there for later. -/
inductive Meanwhile (k : Keeper ρ) (t : ObjectRef) :
    (q : ServiceRequest) → World ρ → q.Answer → World ρ → Prop
  | directly {q : ServiceRequest} {w w' : World ρ} {a : q.Answer}
      (h : MayAnswer Interruption k q w a w') : Meanwhile k t q w a w'
  | reconciled {q : ServiceRequest} {w w' : World ρ} {a : q.Answer}
      (h : MayAnswer Interruption k q (w.remove t) a w') : Meanwhile k t q w a w'
  | pending (w : World ρ) : Meanwhile k t (.delete t) w (.ok ()) w

/-- What every point of a deletion keeps: objects of the cluster may be gone, and its credential.
What is known to be gone stays so. -/
structure Dwindled (d : Deployment) (c : Cluster) (gone : ObjectRef → Prop) (revoked : Prop)
    (w₀ s : World ρ) : Prop where
  objects : Reduced (d.Owns c) w₀ s
  credentials : s.credentials = w₀.credentials ∨ s.credentials = w₀.others c
  gone : ∀ t, gone t → s.object? t = none
  revoked : revoked → s.credentials = w₀.others c

variable {k : Keeper ρ} {d : Deployment} {c c' : Cluster} {gone : ObjectRef → Prop} {revoked : Prop}
  {w₀ w w' s : World ρ} {t : ObjectRef}

theorem Dwindled.remove (h : Dwindled d c gone revoked w₀ s) (mine : d.Owns c t) :
    Dwindled d c gone revoked w₀ (s.remove t) :=
  ⟨h.objects.remove mine, h.credentials, fun u was => gone_remove (h.gone u was), h.revoked⟩

theorem Dwindled.withRecords (h : Dwindled d c gone revoked w₀ s) (records : ρ) :
    Dwindled d c gone revoked w₀ { s with records } :=
  ⟨h.objects, h.credentials, h.gone, h.revoked⟩

theorem Dwindled.and {more : ObjectRef → Prop} (h : Dwindled d c gone revoked w₀ s)
    (also : ∀ t, more t → s.object? t = none) :
    Dwindled d c (fun t => gone t ∨ more t) revoked w₀ s :=
  ⟨h.objects, h.credentials, fun t either => either.elim (h.gone t) (also t), h.revoked⟩

theorem owns_clusterRef (d : Deployment) (c : Cluster) : d.Owns c (d.clusterRef c) :=
  .inl ⟨.cluster, List.mem_cons_self, d.target_cluster c none⟩

/-- Deleting an object of the cluster, which then is gone unless it is the cluster itself. -/
theorem Dwindled.removes (mine : d.Owns c t) :
    Removes (Meanwhile k (d.clusterRef c)) (Admits Any (Dwindled d c gone revoked w₀))
      (Dwindled d c gone revoked w₀) (fun t s => t ≠ d.clusterRef c → s.object? t = none) t := by
  have directly (s s' : World ρ) (a : ServiceRequest.Answer (.delete t))
      (now : Dwindled d c gone revoked w₀ s) (h : MayAnswer Interruption k (.delete t) s a s') :
      Dwindled d c gone revoked w₀ s' ∧ (a = .ok () → s'.object? t = none) ∧
        ∀ u, s.object? u = none → s'.object? u = none := by
    rcases delete_cases h with rfl | ⟨rfl, failed⟩
    · exact ⟨now.remove mine, fun _ => object?_remove_self s t, fun u => gone_remove⟩
    · exact ⟨now, fun ok => absurd ok failed, fun _ gone => gone⟩
  intro s a s' now replied
  cases replied with
  | directly h =>
    obtain ⟨after, done, stays⟩ := directly s s' a now h
    exact ⟨⟨trivial, after⟩, after, fun ok _ => done ok, fun u was other => stays u (was other)⟩
  | reconciled h =>
    obtain ⟨after, done, stays⟩ := directly _ s' a (now.remove (owns_clusterRef d c)) h
    exact ⟨⟨trivial, after⟩, after, fun ok _ => done ok,
      fun u was other => stays u (gone_remove (was other))⟩
  | pending => exact ⟨⟨trivial, now⟩, now, fun _ other => absurd rfl other, fun _ was => was⟩

/-- Requests other than deletions. -/
theorem ensures_meanwhile {q : ServiceRequest} {I J : World ρ → Prop}
    {Q : q.Answer → World ρ → Prop} (elsewhere : q ≠ .delete t)
    (closed : ∀ s, I s → I (s.remove t))
    (asks : ∀ s, I s → (ask q).Ensures (MayAnswer Interruption k) (Admits Any J) Q s)
    (start : I w) : (ask q).Ensures (Meanwhile k t) (Admits Any J) Q w := by
  intro a w' replied
  cases replied with
  | directly h => exact asks w start a w' h
  | reconciled h => exact asks (w.remove t) (closed w start) a w' h
  | pending => exact absurd rfl elsewhere

/-- Where the deletion of a cluster succeeds, all but the cluster itself and its access is gone. -/
theorem dwindles_deleteCluster (h : Dwindled d c gone revoked w₀ s) :
    Keeps (Meanwhile k (d.clusterRef c)) (Admits Any (Dwindled d c gone revoked w₀))
      (fun _ => Dwindled d c gone revoked w₀)
      (fun _ => Dwindled d c (fun t => gone t ∨ (d.Among c c.frame t ∧ t ≠ d.clusterRef c)) revoked
        w₀) (d.deleteCluster c) s := by
  rw [Deployment.deleteCluster_eq]
  have deletes := keeps_deleteParts (fun p member => Deployment.named_frame member)
    (fun t mine => Dwindled.removes (k := k) (Deployment.owns_iff.2 (.inl mine)))
    (fun _ _ now => now) h
  refine deletes.imp (fun _ _ now => now) ?_
  rintro _ s ⟨now, all, -⟩
  exact now.and fun t ⟨mine, other⟩ => all t mine other

theorem dwindles_look (h : Dwindled d c gone revoked w₀ s) :
    Keeps (Meanwhile k (d.clusterRef c)) (Admits Any (Dwindled d c gone revoked w₀))
      (fun _ => Dwindled d c gone revoked w₀)
      (fun present s => Dwindled d c gone revoked w₀ s ∧
        (present = false → s.object? (d.clusterRef c) = none)) (d.isPresent .cluster c) s := by
  unfold Deployment.isPresent Deployment.fetch
  rw [keeps_bind, keeps_orAbsent, d.target_cluster c none]
  change Keeps _ _ _ _ (getObject (d.clusterRef c) >>= _) _
  rw [keeps_bind]
  refine ensures_meanwhile nofun (fun s now => now.remove (owns_clusterRef d c)) (fun s now => ?_) h
  refine keeps_getObject (fails_of_honest (fun _ h => h) (fun _ _ _ now => now) _) now trivial ?_ ?_
  · exact fun body _ => ⟨now, nofun⟩
  · exact fun absent => ⟨now, fun _ => absent⟩

/-- Revoking the only credential of that user and name leaves the others. -/
theorem revoke_others {a : ApplicationCredential} (keyed : w₀.Keyed)
    (same : s.credentials = w₀.credentials) (found : s.find? c.userId c.uuid.toString = some a) :
    (s.revoke c.userId a.id).credentials = w₀.others c := by
  obtain ⟨mine, first, rfl⟩ := Option.map_eq_some_iff.1 found
  have member : mine ∈ w₀.credentials := same ▸ List.mem_of_find?_eq_some first
  obtain ⟨user, name⟩ : mine.user = c.userId ∧ mine.credential.name = c.uuid.toString := by
    simpa using List.find?_some first
  change s.credentials.filter _ = _
  rw [same, others]
  refine List.filter_congr fun h hh => ?_
  have agree : (h.user = c.userId ∧ h.credential.id = mine.credential.id) ↔
      (h.user = c.userId ∧ h.credential.name = c.uuid.toString) := by
    constructor
    · rintro ⟨same, id⟩
      rw [keyed.ids h hh mine member (same.trans user.symm) id]
      exact ⟨user, name⟩
    · rintro ⟨same, named⟩
      rw [keyed.names h hh mine member (same.trans user.symm) (named.trans name.symm)]
      exact ⟨user, rfl⟩
  simp only [← Bool.decide_and, agree]

/-- Where no credential is found, there are no others but the others. -/
theorem others_of_absent (h : Dwindled d c gone revoked w₀ s)
    (absent : s.find? c.userId c.uuid.toString = none) : s.credentials = w₀.others c := by
  rcases h.credentials with same | same
  · rw [same, others, eq_comm, List.filter_eq_self]
    intro x hx
    have unlike := List.find?_eq_none.1 (Option.map_eq_none_iff.1 absent) x (same ▸ hx)
    rw [Bool.not_eq_true']
    exact Bool.eq_false_iff.2 unlike
  · exact same

/-- Where a credential is found, it has not been revoked. -/
theorem credentials_of_found {a : ApplicationCredential} (h : Dwindled d c gone revoked w₀ s)
    (found : s.find? c.userId c.uuid.toString = some a) : s.credentials = w₀.credentials := by
  refine h.credentials.resolve_right fun same => ?_
  obtain ⟨mine, first, -⟩ := Option.map_eq_some_iff.1 found
  have member := List.mem_of_find?_eq_some first
  rw [same] at member
  have other := (List.mem_filter.1 member).2
  rw [List.find?_some first] at other
  cases other

theorem dwindles_revoke (keyed : w₀.Keyed) (h : Dwindled d c gone False w₀ s) :
    Keeps (Meanwhile k (d.clusterRef c)) (Admits Any (Dwindled d c gone False w₀))
      (fun _ => Dwindled d c gone False w₀) (fun _ => Dwindled d c gone True w₀)
      (Credential.revoke c.userId c.uuid) s := by
  have fails (P : World ρ → Prop) := fails_of_honest (J := Dwindled d c gone False w₀)
    (E := fun _ => Dwindled d c gone False w₀) (fun _ h => h) (fun _ _ _ now => now) P
  unfold Credential.revoke
  rw [keeps_bind, keeps_orAbsent]
  refine ensures_meanwhile nofun (fun s now => now.remove (owns_clusterRef d c)) (fun s now => ?_) h
  refine keeps_findCredential (fails _) now trivial ?_ ?_
  · intro credential found
    rw [keeps_bind, keeps_orAbsent]
    refine ensures_meanwhile (I := fun s => Dwindled d c gone False w₀ s ∧
      s.find? c.userId c.uuid.toString = some credential) nofun
      (fun s ⟨now, found⟩ => ⟨now.remove (owns_clusterRef d c), found⟩) ?_ ⟨now, found⟩
    rintro s ⟨now, found⟩
    have member : credential ∈ s.held c.userId c.uuid.toString := by
      rw [find?_eq_head?] at found
      exact List.mem_of_mem_head? found
    have revoked := revoke_others keyed (credentials_of_found now found) found
    refine keeps_deleteCredential (fails _) now (isHeld_of_held member) trivial ?_ ?_
    · exact ⟨now.objects, .inr revoked, now.gone, False.elim⟩
    · exact ⟨now.objects, .inr revoked, now.gone, fun _ => revoked⟩
  · intro absent
    exact ⟨now.objects, now.credentials, now.gone, fun _ => others_of_absent now absent⟩

theorem Dwindled.mono {gone' : ObjectRef → Prop} {revoked' : Prop}
    (h : Dwindled d c gone revoked w₀ s) (fewer : ∀ t, gone' t → gone t)
    (sooner : revoked' → revoked) : Dwindled d c gone' revoked' w₀ s :=
  ⟨h.objects, h.credentials, fun t was => h.gone t (fewer t was), fun was => h.revoked (sooner was)⟩

/-- What is known once the cluster has been found gone. -/
abbrev Found (d : Deployment) (c : Cluster) (gone : ObjectRef → Prop) (t : ObjectRef) : Prop :=
  gone t ∨ t = d.clusterRef c

/-- Where a pass ends: what it declares deleted is gone, and so is the credential. -/
structure Ended (d : Deployment) (c : Cluster) (gone : ObjectRef → Prop) (w₀ : World ρ)
    (c' : Cluster) (s : World ρ) : Prop where
  dwindled : Dwindled d c gone False w₀ s
  deleted : c'.status = .deleteComplete →
    Dwindled d c (fun t => Found d c gone t ∨ d.Among c Deployment.accessParts t) True w₀ s

/-- A pass over a cluster that is being deleted. -/
theorem dwindles_teardownPass (keyed : w₀.Keyed) (deleting : c.status = .deleteInProgress)
    (h : Dwindled d c gone False w₀ s) :
    Pass.Keeps (Meanwhile k (d.clusterRef c)) (Admits Any (Dwindled d c gone False w₀))
      (fun _ => Ended d c gone w₀) (fun _ => Ended d c gone w₀) d.teardownPass c s := by
  have waiting (s : World ρ) (now : Dwindled d c gone False w₀ s) : Ended d c gone w₀ c s :=
    ⟨now, fun deleted => by rw [deleting] at deleted; cases deleted⟩
  unfold Deployment.teardownPass
  rw [Pass.keeps_bind, Pass.keeps_get, Pass.keeps_bind, Pass.keeps_lift]
  refine (dwindles_look h).imp (fun _ s now => waiting s now) ?_
  rintro present s ⟨now, absent⟩
  cases present with
  | true => exact waiting s now
  | false =>
    -- What is known grows from stage to stage: the cluster, the credential, then the secrets.
    have found : Dwindled d c (Found d c gone) False w₀ s := now.and fun t is => by
      rw [is]
      exact absent rfl
    have sooner (revoked : Prop) (s : World ρ) (now : Dwindled d c (Found d c gone) revoked w₀ s) :
        Dwindled d c gone False w₀ s := now.mono (fun _ => .inl) False.elim
    rw [if_neg (by decide), Pass.keeps_bind, Pass.keeps_lift]
    refine (dwindles_revoke keyed found).mono (fun _ _ _ _ h => ⟨h.1, sooner _ _ h.2⟩)
      (fun _ s now => waiting s (sooner _ _ now)) ?_
    intro _ s now
    have deletes := keeps_deleteParts (d := d) (c := c) Deployment.named_accessParts
      (fun t mine => Dwindled.removes (k := k) (Deployment.owns_iff.2 (.inr mine)))
      (fun _ _ now => now) now
    change Pass.Keeps _ _ _ _ ((Deployment.accessKinds.forM fun kind =>
      (d.delete kind c : Pass Unit)) >>= _) c s
    rw [Pass.keeps_bind, Pass.keeps_forM_lift]
    refine Keeps.mono deletes (fun _ _ _ _ h => ⟨h.1, sooner _ _ h.2⟩)
      (fun _ s now => waiting s (sooner _ _ now)) ?_
    rintro _ s ⟨now, all, -⟩
    have done : Dwindled d c (fun t => Found d c gone t ∨ d.Among c Deployment.accessParts t) True
        w₀ s := by
      refine now.and fun t mine => ?_
      by_cases is : t = d.clusterRef c
      · exact now.gone t (.inr is)
      · exact all t mine is
    rw [Pass.keeps_bind, Pass.keeps_set, Pass.keeps_lift]
    have ended (c' : Cluster) (s : World ρ) (now : Dwindled d c (fun t => Found d c gone t ∨
        d.Among c Deployment.accessParts t) True w₀ s) : Ended d c gone w₀ c' s :=
      ⟨now.mono (fun _ was => .inl (.inl was)) False.elim, fun _ => now⟩
    refine ensures_meanwhile nofun (fun s now => now.remove (owns_clusterRef d c)) ?_ done
    intro s now
    have after := now.withRecords
      (k.save { c with status := c.status.withPhase .complete } s.records).2
    refine Ensures.mono (keeps_saveCluster (G := Any) (fun _ s _ now => ended _ s now) now trivial
      after ?_) (fun _ _ _ _ h => ⟨trivial, (ended c _ h.2).dwindled⟩) fun _ _ h => h
    cases (k.save { c with status := c.status.withPhase .complete } s.records).1 with
    | ok u => exact ended _ _ after
    | error e => exact ended _ _ after

/-- A status pass over a cluster that is being deleted, or has been. -/
theorem dwindles_updateClusterStatus (keyed : w₀.Keyed) (deleting : c.status.action = .delete)
    (h : Dwindled d c gone False w₀ s) :
    Pass.Keeps (Meanwhile k (d.clusterRef c)) (Admits Any (Dwindled d c gone False w₀))
      (fun _ c' s => c.status = .deleteInProgress → Ended d c gone w₀ c' s)
      (fun _ c' s => c.status = .deleteInProgress → Ended d c gone w₀ c' s)
      d.updateClusterStatus c s := by
  unfold Deployment.updateClusterStatus
  rw [Pass.keeps_bind, Pass.keeps_get]
  split
  next unsettled =>
    have status : c.status = .deleteInProgress := by
      cases whole : c.status with
      | mk action phase =>
        rw [whole] at deleting unsettled
        cases deleting
        cases unsettled
        rfl
    rw [deleting]
    exact (dwindles_teardownPass keyed status h).imp (fun _ _ _ ended _ => ended)
      fun _ _ _ ended _ => ended
  next settled =>
    intro status
    rw [status] at settled
    exact absurd rfl settled

/-- What may have been done to delete a cluster. Each operation is given some record of it and may be
cut short at any point; passes come only once a deletion has succeeded, as the flag says. In between
its record may be changed, and the cluster itself may go. -/
inductive Dismantled (k : Keeper ρ) (d : Deployment) (c : Cluster) (w₀ : World ρ) :
    Bool → World ρ → Prop
  | start : Dismantled k d c w₀ false w₀
  | cut {asked : Bool} {c' : Cluster} {w w' : World ρ} {p : Program services (Result Unit)}
      (before : Dismantled k d c w₀ asked w) (remains : c.Remains c')
      (reached : Reaches (Meanwhile k (d.clusterRef c)) (d.deleteCluster c').run w p w') :
      Dismantled k d c w₀ asked w'
  | deleted {asked : Bool} {c' : Cluster} {w w' : World ρ} (before : Dismantled k d c w₀ asked w)
      (remains : c.Remains c')
      (reached : Reaches (Meanwhile k (d.clusterRef c)) (d.deleteCluster c').run w
        (done (.ok ())) w') : Dismantled k d c w₀ true w'
  | pass {c' : Cluster} {w w' : World ρ} {p : Program services (Result Unit × Cluster)}
      (before : Dismantled k d c w₀ true w) (remains : c.Remains c')
      (deleting : c'.status.action = .delete)
      (reached : Reaches (Meanwhile k (d.clusterRef c)) (d.updateClusterStatus.run.run c') w p w') :
      Dismantled k d c w₀ true w'
  | reconciled {asked : Bool} {w : World ρ} (before : Dismantled k d c w₀ asked w) :
      Dismantled k d c w₀ asked (w.remove (d.clusterRef c))
  | recorded {asked : Bool} {w : World ρ} (records : ρ) (before : Dismantled k d c w₀ asked w) :
      Dismantled k d c w₀ asked { w with records }

/-- What is gone once a deletion has succeeded. -/
def Asked (d : Deployment) (c : Cluster) (asked : Bool) (t : ObjectRef) : Prop :=
  asked = true ∧ d.Among c c.frame t ∧ t ≠ d.clusterRef c

theorem dwindled_remains (h : c.Remains c') :
    Dwindled d c' gone revoked w₀ s ↔ Dwindled d c gone revoked w₀ s := by
  have others : w₀.others c' = w₀.others c := by rw [World.others, World.others, h.uuid, h.userId]
  have owns := Deployment.owns_remains (d := d) h
  constructor
  · rintro ⟨objects, credentials, gone, revoked⟩
    rw [owns] at objects
    rw [others] at credentials revoked
    exact ⟨objects, credentials, gone, revoked⟩
  · rintro ⟨objects, credentials, gone, revoked⟩
    rw [← owns] at objects
    rw [← others] at credentials revoked
    exact ⟨objects, credentials, gone, revoked⟩

theorem Dismantled.dwindled {asked : Bool} (keyed : w₀.Keyed) (h : Dismantled k d c w₀ asked w) :
    Dwindled d c (Asked d c asked) False w₀ w := by
  induction h with
  | start => exact ⟨.rfl, .inl rfl, fun t is => absurd is.1 (by decide), False.elim⟩
  | cut _ remains reached ih =>
    rw [Deployment.deleteCluster_remains remains] at reached
    exact throughout ih (dwindles_deleteCluster ih) reached
  | deleted _ remains reached ih =>
    rw [Deployment.deleteCluster_remains remains] at reached
    exact ((dwindles_deleteCluster ih).at_ok reached).mono (fun t is => .inr is.2) id
  | pass _ remains deleting reached ih =>
    rw [← Deployment.clusterRef_remains remains] at reached
    have ih' := (dwindled_remains remains).2 ih
    have after := throughout ih' (dwindles_updateClusterStatus keyed deleting ih') reached
    exact (dwindled_remains remains).1 after
  | reconciled _ ih => exact ih.remove (owns_clusterRef d _)
  | recorded records _ ih => exact ih.withRecords records

theorem remove_of_absent (absent : w.object? t = none) : w.remove t = w := by
  have all : w.objects.filter (·.1 ≠ t) = w.objects := by
    rw [List.filter_eq_self]
    intro x hx
    have other := List.lookup_eq_none_iff.1 absent x hx
    exact decide_eq_true (bne_iff_ne.1 other).symm
  rw [remove, all]

/-- Deleting what is not there succeeds and changes nothing. -/
theorem run_deleteParts_of_absent {parts : List Part}
    (named : ∀ p ∈ parts, Deployment.Grouped p.1 → p.2.isSome)
    (absent : ∀ t, d.Among c parts t → w.object? t = none) :
    (parts.forM (d.deletePart c)).run.run (answer k) w = (.ok (), w) := by
  induction parts with
  | nil => rfl
  | cons p rest ih =>
    obtain ⟨t, target⟩ := Deployment.target_ok (d := d) (c := c) (named p List.mem_cons_self)
    rw [List.forM, Deployment.deletePart, Deployment.delete, target]
    change ((rest.forM (d.deletePart c)).run.run (answer k) (w.remove t)) = _
    rw [remove_of_absent (absent t ⟨p, List.mem_cons_self, target⟩)]
    refine ih (fun q hq => named q (List.mem_cons_of_mem p hq)) ?_
    rintro u ⟨q, hq, is⟩
    exact absent u ⟨q, List.mem_cons_of_mem p hq, is⟩

/-- Deleting a cluster converges, however often and wherever it is cut short. Where a pass declares
it deleted, what it owned is gone and nothing else is, its credential is gone and no other, and to
delete it again changes nothing. -/
theorem dismantling_exact {c'' : Cluster} {r : Result Unit} (keyed : w₀.Keyed)
    (dismantled : Dismantled k d c w₀ true w) (remains : c.Remains c')
    (deleting : c'.status = .deleteInProgress)
    (reached : Reaches (Meanwhile k (d.clusterRef c)) (d.updateClusterStatus.run.run c') w
      (done (r, c'')) w') (complete : c''.status = .deleteComplete) :
    (∀ t, d.Owns c t → w'.object? t = none) ∧
    (∀ t, ¬d.Owns c t → w'.object? t = w₀.object? t) ∧
    (w'.credentials = w₀.others c ∧ w'.heldFor c = []) ∧
    ∀ c', c.Remains c' → (d.deleteCluster c').run.run (answer k) w' = (.ok (), w') := by
  rw [← Deployment.clusterRef_remains remains] at reached
  have before := (dwindled_remains remains).2 (dismantled.dwindled keyed)
  have pass := dwindles_updateClusterStatus (k := k) keyed
    (congrArg Status.action deleting) before
  have ended : Ended d c' (Asked d c true) w₀ c'' w' := by
    have ends := Ensures.at_end pass reached
    cases r with
    | ok u => exact ends deleting
    | error e => exact ends deleting
  have final := (dwindled_remains remains).1 (ended.deleted complete)
  have own (t : ObjectRef) (mine : d.Owns c t) : w'.object? t = none := by
    refine final.gone t ?_
    by_cases is : t = d.clusterRef c
    · rw [is, ← Deployment.clusterRef_remains remains]
      exact .inl (.inr rfl)
    · rcases Deployment.owns_iff.1 mine with frame | access
      · exact .inl (.inl ⟨rfl, frame, is⟩)
      · obtain ⟨p, member, target⟩ := access
        exact .inr ⟨p, member, (Deployment.target_remains remains _ _).trans target⟩
  have others := final.revoked trivial
  refine ⟨own, fun t other => final.objects.elsewhere other, ⟨others, heldFor_others others⟩, ?_⟩
  intro c' remains
  rw [Deployment.deleteCluster_remains remains, Deployment.deleteCluster_eq]
  exact run_deleteParts_of_absent (fun p member => Deployment.named_frame member)
    fun t mine => own t (Deployment.owns_iff.2 (.inl mine))

theorem dismantling_exact_sample :
    let d := Deployment.sample
    let c := Cluster.completeSample .nil
    let k := Keeper.memory
    let user := c.userId
    let w₀ : World Records :=
      { objects := [(d.clusterRef c, .null), (d.secretRef c, .null)]
        credentials := [⟨user, { id := "1", name := c.uuid.toString }⟩,
          ⟨user, { id := "2", name := "" }⟩]
        records := [] }
    w₀.Keyed ∧ ∃ w c'' r w', Dismantled k d c w₀ true w ∧
      Reaches (Meanwhile k (d.clusterRef c))
        (d.updateClusterStatus.run.run { c with status := .deleteInProgress }) w (done (r, c'')) w' ∧
      c''.status = .deleteComplete ∧ w'.object? (d.secretRef c) = none ∧
      w'.credentials = w₀.others c := by
  intro d c k user w₀
  have keyed : w₀.Keyed := ⟨by decide +kernel, by decide +kernel⟩
  have acts (q : ServiceRequest) (w : World Records) :
      Meanwhile k (d.clusterRef c) q w (w.answer k q).1 (w.answer k q).2 := .directly .answered
  let w := ((d.deleteCluster c).run.run (answer k) w₀).2
  have deletes : Reaches (Meanwhile k (d.clusterRef c)) (d.deleteCluster c).run w₀
      (done (.ok ())) w :=
    reaches_run acts (d.deleteCluster c).run w₀
  have dismantled : Dismantled k d c w₀ true w := Dismantled.start.deleted .rfl deletes
  let c' := { c with status := .deleteInProgress }
  have remains : c.Remains c' := ⟨⟨rfl, rfl⟩, rfl, rfl⟩
  have passes := reaches_run acts (d.updateClusterStatus.run.run c') w
  have complete : ((d.updateClusterStatus.run.run c').run (answer k) w).1.2.status =
      .deleteComplete := by decide +kernel
  cases ran : (d.updateClusterStatus.run.run c').run (answer k) w with
  | mk result w' =>
    obtain ⟨r, c''⟩ := result
    rw [ran] at passes complete
    obtain ⟨own, -, ⟨others, -⟩, -⟩ := dismantling_exact keyed dismantled remains rfl passes complete
    have secret : d.Owns c (d.secretRef c) :=
      .inl ⟨.cloudConfigSecret, by decide, d.target_secret c none⟩
    exact ⟨keyed, w, c'', r, w', dismantled, passes, complete, own _ secret, others⟩

end World

end ClusterLifecycle
