import ClusterLifecycle.Proofs.Recording

/-!
The one way in which a cluster loses its access to the cloud, whatever the services answer.

* `Takes`: the requests that take access: deleting a credential, or one of the secrets;
* `Takedown`: the log of a teardown that has gone through, from the look at the cluster to the last
  secret;
* `Orderly`: nothing takes access but after a look that has found the cluster gone;
* `orderly_updateClusterStatus`: a status pass is orderly, and what it declares deleted, in hand or in
  the store, it has taken down before.
-/

namespace ClusterLifecycle

open Program

namespace Deployment

variable (d : Deployment) (c : Cluster)

/-- The secrets that a cluster reaches the cloud and signs its certificates with. -/
def accessKinds : List ResourceKind := .cloudConfigSecret :: ResourceKind.authorities

/-- The request takes access away from the cluster. -/
def Takes : ServiceRequest → Prop
  | .deleteCredential .. => True
  | .delete t => ∃ k ∈ accessKinds, d.target k c none = .ok t
  | _ => False

/-- A log that begins with a look at the cluster itself, which was not there. -/
def FoundGone (log : Log services) : Prop :=
  ∃ e rest, e.isNotFound ∧ log = ⟨.get (d.clusterRef c), .error e⟩ :: rest

/-- The log of the deletion of objects. -/
def Removed (kinds : List ResourceKind) (log : Log services) : Prop :=
  ∃ targets : List ObjectRef, kinds.map (fun k => d.target k c none) = targets.map .ok ∧
    log = targets.map fun t => ⟨.delete t, .ok ()⟩

end Deployment

/-- The log of a revocation that has gone through: there was no credential, or it was deleted, or it
was gone before it could be. -/
inductive Credential.Revoked (user : String) (id : Uuid) : Log services → Prop
  | absent (e : Error) (none : e.isNotFound) :
      Revoked user id [⟨.findCredential user id.toString, .error e⟩]
  | deleted (credential : ApplicationCredential) :
      Revoked user id [⟨.findCredential user id.toString, .ok credential⟩,
        ⟨.deleteCredential user credential.id, .ok ()⟩]
  | gone (credential : ApplicationCredential) (e : Error) (none : e.isNotFound) :
      Revoked user id [⟨.findCredential user id.toString, .ok credential⟩,
        ⟨.deleteCredential user credential.id, .error e⟩]

namespace Deployment

variable (d : Deployment) (c : Cluster)

/-- The log of a teardown that has gone through: the cluster was not there, the credential has been
revoked and all secrets have been deleted. -/
def Takedown (log : Log services) : Prop :=
  ∃ e revocation removal, e.isNotFound ∧ Credential.Revoked c.userId c.uuid revocation ∧
    d.Removed c accessKinds removal ∧
    log = ⟨.get (d.clusterRef c), .error e⟩ :: (revocation ++ removal)

/-- A pass over a cluster that is being deleted has taken it down. -/
def Completes (log : Log services) : Prop :=
  c.status = .deleteInProgress ∧ ∃ first rest, d.Takedown c first ∧ log = first ++ rest

/-- Access is only taken from a cluster that is being deleted and has been found gone. -/
def Orderly (log : Log services) : Prop :=
  ∀ before x after, log = before ++ x :: after → d.Takes c x.request →
    c.status = .deleteInProgress ∧ d.FoundGone c before

variable {d c} {log : Log services}

theorem Completes.append (h : d.Completes c log) (more : Log services) :
    d.Completes c (log ++ more) := by
  obtain ⟨deleting, first, rest, taken, rfl⟩ := h
  exact ⟨deleting, first, rest ++ more, taken, List.append_assoc _ _ _⟩

theorem Takedown.completes (taken : d.Takedown c log) (deleting : c.status = .deleteInProgress) :
    d.Completes c log :=
  ⟨deleting, log, [], taken, (List.append_nil log).symm⟩

theorem FoundGone.append (h : d.FoundGone c log) (more : Log services) :
    d.FoundGone c (log ++ more) := by
  obtain ⟨e, rest, none, rfl⟩ := h
  exact ⟨e, rest ++ more, none, rfl⟩

theorem orderly_nil : d.Orderly c [] := by
  intro before x after split
  simp at split

theorem Orderly.concat {x : Exchange services} (h : d.Orderly c log)
    (last : d.Takes c x.request → c.status = .deleteInProgress ∧ d.FoundGone c log) :
    d.Orderly c (log ++ [x]) := by
  intro before y after split takes
  rcases split_concat split with ⟨rfl, rfl⟩ | ⟨after', earlier⟩
  · exact last takes
  · exact h before y after' earlier takes

theorem takes_secret {t : ObjectRef} (h : d.Takes c (.delete t)) : t.kind = "Secret" := by
  obtain ⟨k, member, named⟩ := h
  rw [target_kind named]
  simp only [accessKinds, ResourceKind.authorities, List.mem_cons, List.not_mem_nil,
    or_false] at member
  rcases member with rfl | rfl | rfl | rfl | rfl <;> rfl

theorem named_accessKinds : ∀ k ∈ accessKinds, ∃ t, d.target k c none = .ok t := by
  intro k member
  simp only [accessKinds, ResourceKind.authorities, List.mem_cons, List.not_mem_nil,
    or_false] at member
  rcases member with rfl | rfl | rfl | rfl | rfl <;> exact ⟨_, rfl⟩

end Deployment

section
variable {ρ : Type} (k : Keeper ρ) (d : Deployment) (c : Cluster) (prior : Prop)

/-- How services answer that may fail anything at any time. -/
abbrev Freely : Conduct services (ρ × Log services) := Logged (k.Attends True)

/-- What a pass is at any point: orderly, and a record of a deleted cluster is stored only if one was
before or the cluster has been taken down. -/
def Guarded (s : ρ × Log services) : Prop :=
  d.Orderly c s.2 ∧
    k.Shows c.uuid (fun status => status = .deleteComplete → prior ∨ d.Completes c s.2) s.1

/-- Every exchange leaves the pass guarded. -/
abbrev Guarding : Conduct services (ρ × Log services) := fun _ _ _ s' => Guarded k d c prior s'

variable {k d c prior} {s s' : ρ × Log services} {q : ServiceRequest} {records : ρ}
  {log : Log services}

/-- Nothing but a save changes what is stored, and nothing is forgotten of the log. -/
theorem Guarded.exchange {a : q.Answer} (faithful : k.Faithful c.uuid)
    (guarded : Guarded k d c prior s) (answered : Freely k q s a s')
    (takes : d.Takes c q → c.status = .deleteInProgress ∧ d.FoundGone c s.2)
    (fits : Keeper.Fits c.uuid
      (fun status => status = .deleteComplete → prior ∨ d.Completes c s.2) q) :
    Guarded k d c prior s' := by
  obtain ⟨records, log⟩ := s
  obtain ⟨records', log'⟩ := s'
  obtain ⟨attended, rfl⟩ := answered
  obtain ⟨orderly, shown⟩ := guarded
  refine ⟨orderly.concat takes, (shown.exchange faithful fits attended).mono ?_⟩
  intro status taken is
  exact (taken is).imp_right fun h => h.append _

/-- A request that saves nothing, and what is then in the log. -/
theorem guarding_ask {Q : q.Answer → ρ × Log services → Prop} (faithful : k.Faithful c.uuid)
    (elsewhere : ¬q.Saves) (guarded : Guarded k d c prior (records, log))
    (takes : d.Takes c q → c.status = .deleteInProgress ∧ d.FoundGone c log)
    (done : ∀ a, Guarded k d c prior (records, log ++ [⟨q, a⟩]) →
      Q a (records, log ++ [⟨q, a⟩])) :
    (Operation.ask q).Ensures (Freely k) (Guarding k d c prior) Q (records, log) := by
  rintro a ⟨records', log'⟩ answered
  have after := guarded.exchange faithful answered takes (Keeper.fits_of_elsewhere elsewhere)
  obtain ⟨attended, rfl⟩ := answered
  have same : records' = records := by
    cases attended with
    | other | refused => rfl
    | saved | savedGroup | lost | lostGroup => exact absurd trivial elsewhere
  subst same
  exact ⟨after, done a after⟩

/-- What takes nothing and saves no record of a deleted cluster is guarded. -/
theorem Guarded.living {a : q.Answer} (faithful : k.Faithful c.uuid)
    (guarded : Guarded k d c prior s) (answered : Freely k q s a s') (keeps : ¬d.Takes c q)
    (fits : Keeper.Fits c.uuid (· ≠ .deleteComplete) q) : Guarded k d c prior s' := by
  refine guarded.exchange faithful answered (fun takes => absurd takes keeps) ?_
  cases q with
  | saveCluster c => exact ⟨fits.1, fun is => absurd is fits.2⟩
  | saveNodeGroup => exact fits
  | _ => trivial

end

namespace Deployment

section
variable {ρ : Type} {k : Keeper ρ} {d : Deployment} {c : Cluster} {prior : Prop} {records : ρ}
  {log : Log services} (faithful : k.Faithful c.uuid)
include faithful

/-- A look at the cluster. -/
theorem guarding_look (guarded : Guarded k d c prior (records, log)) :
    (d.isPresent .cluster c).Keeps (Freely k) (Guarding k d c prior)
      (fun _ => Guarded k d c prior)
      (fun present s => Guarded k d c prior s ∧ (present = false → ∃ e, e.isNotFound ∧
        s = (records, log ++ [⟨.get (d.clusterRef c), .error e⟩]))) (records, log) := by
  unfold Deployment.isPresent Deployment.fetch
  rw [Operation.keeps_bind, Operation.keeps_orAbsent, d.target_cluster c none]
  change Operation.Keeps _ _ _ _ (Operation.getObject (d.clusterRef c) >>= _) _
  rw [Operation.keeps_bind]
  refine guarding_ask faithful id guarded False.elim fun a after => ?_
  cases a with
  | ok body => exact ⟨after, nofun⟩
  | error e =>
    change if e.isNotFound then _ else _
    split
    next none => exact ⟨after, fun _ => ⟨e, none, rfl⟩⟩
    next => exact after

variable (deleting : c.status = .deleteInProgress) (found : d.FoundGone c log)
include deleting found

/-- The revocation. -/
theorem guarding_revoke (guarded : Guarded k d c prior (records, log)) :
    (Credential.revoke c.userId c.uuid).Keeps (Freely k) (Guarding k d c prior)
      (fun _ => Guarded k d c prior)
      (fun _ s => Guarded k d c prior s ∧ ∃ revocation,
        Credential.Revoked c.userId c.uuid revocation ∧ s = (records, log ++ revocation))
      (records, log) := by
  unfold Credential.revoke
  rw [Operation.keeps_bind, Operation.keeps_orAbsent]
  refine guarding_ask faithful id guarded False.elim fun a after => ?_
  cases a with
  | error e =>
    change if e.isNotFound then _ else _
    split
    next none => exact ⟨after, _, .absent e none, rfl⟩
    next => exact after
  | ok credential =>
    change Operation.Keeps _ _ _ _ (Operation.orAbsent (Operation.deleteCredential c.userId
      credential.id) >>= _) _
    rw [Operation.keeps_bind, Operation.keeps_orAbsent]
    refine guarding_ask faithful id after (fun _ => ⟨deleting, found.append _⟩) fun a after => ?_
    rw [List.append_assoc] at after ⊢
    cases a with
    | ok u => exact ⟨after, _, .deleted credential, rfl⟩
    | error e =>
      change if e.isNotFound then _ else _
      split
      next none => exact ⟨after, _, .gone credential e none, rfl⟩
      next => exact after

/-- The deletion of secrets, one after the other. -/
theorem guarding_removal {kinds : List ResourceKind}
    (named : ∀ k ∈ kinds, ∃ t, d.target k c none = .ok t)
    (guarded : Guarded k d c prior (records, log)) :
    Pass.Keeps (Freely k) (Guarding k d c prior)
      (fun _ c' s => c' = c ∧ Guarded k d c prior s)
      (fun _ c' s => c' = c ∧ Guarded k d c prior s ∧ ∃ removal, d.Removed c kinds removal ∧
        s = (records, log ++ removal))
      (kinds.forM fun k => (d.delete k c : Pass Unit)) c (records, log) := by
  induction kinds generalizing log with
  | nil => exact ⟨rfl, guarded, [], ⟨[], rfl, rfl⟩, by rw [List.append_nil]⟩
  | cons kind kinds ih =>
    obtain ⟨t, target⟩ := named kind List.mem_cons_self
    change Pass.Keeps _ _ _ _ ((d.delete kind c : Pass Unit) >>= fun _ => _) c _
    rw [Pass.keeps_bind, Pass.keeps_lift]
    unfold Deployment.delete
    rw [target]
    refine guarding_ask faithful id guarded (fun _ => ⟨deleting, found⟩) fun a after => ?_
    cases a with
    | error e => exact ⟨rfl, after⟩
    | ok u =>
      refine (ih (found.append _) (fun k hk => named k (List.mem_cons_of_mem _ hk)) after).imp_ok ?_
      rintro _ c' s ⟨same, guarded, removal, ⟨targets, drawn, rfl⟩, rfl⟩
      refine ⟨same, guarded, _, ⟨t :: targets, ?_, rfl⟩, ?_⟩
      · rw [List.map_cons, List.map_cons, target, drawn]
      · rw [List.append_assoc]
        rfl

end

/-- The record in hand is of the same cluster, and declared deleted only if it was before or the
cluster has been taken down. -/
structure Declares (d : Deployment) (c c' : Cluster) (log : Log services) : Prop where
  uuid : c'.uuid = c.uuid
  deleted : c'.status = .deleteComplete → c.status = .deleteComplete ∨ d.Completes c log

section
variable {ρ : Type} {k : Keeper ρ} {d : Deployment} {c : Cluster} {prior : Prop} {records : ρ}
  (faithful : k.Faithful c.uuid)
  (start : k.Shows c.uuid (fun status => status = .deleteComplete → prior) records)
include faithful start

omit faithful in
theorem guarded_start : Guarded k d c prior (records, []) :=
  ⟨orderly_nil, start.mono fun _ shown is => .inl (shown is)⟩

theorem guarding_teardownPass (deleting : c.status = .deleteInProgress) :
    Pass.Keeps (Freely k) (Guarding k d c prior)
      (fun _ c' s => d.Declares c c' s.2 ∧ Guarded k d c prior s)
      (fun _ c' s => d.Declares c c' s.2 ∧ Guarded k d c prior s) d.teardownPass c
      (records, []) := by
  have guarded := guarded_start (d := d) start
  have waiting (log : Log services) : d.Declares c c log := ⟨rfl, .inl⟩
  unfold Deployment.teardownPass
  rw [Pass.keeps_bind, Pass.keeps_get, Pass.keeps_bind, Pass.keeps_lift]
  refine (guarding_look faithful guarded).imp (fun _ _ guarded => ⟨waiting _, guarded⟩) ?_
  rintro present s ⟨guarded, gone⟩
  cases present with
  | true => exact ⟨waiting _, guarded⟩
  | false =>
    obtain ⟨e, none, rfl⟩ := gone rfl
    have found : d.FoundGone c ([] ++ [⟨.get (d.clusterRef c), .error e⟩]) := ⟨e, [], none, rfl⟩
    rw [if_neg (by decide), Pass.keeps_bind, Pass.keeps_lift]
    refine (guarding_revoke faithful deleting found guarded).imp
      (fun _ _ guarded => ⟨waiting _, guarded⟩) ?_
    rintro _ s ⟨guarded, revocation, revoked, rfl⟩
    have removing := guarding_removal faithful deleting (found.append revocation)
      (named_accessKinds (d := d) (c := c)) guarded
    rw [Pass.keeps_bind]
    refine removing.imp ?_ ?_
    · rintro _ c' s ⟨rfl, guarded⟩
      exact ⟨waiting _, guarded⟩
    rintro _ c' s ⟨rfl, guarded, removal, removed, rfl⟩
    have taken : d.Takedown c' ([] ++ [⟨.get (d.clusterRef c'), .error e⟩] ++ revocation ++
        removal) :=
      ⟨e, revocation, removal, none, revoked, removed, List.append_assoc _ _ _⟩
    rw [Pass.keeps_bind, Pass.keeps_set, Pass.keeps_lift]
    intro a s answered
    have after := guarded.exchange faithful answered False.elim
      ⟨rfl, fun _ => .inr (taken.completes deleting)⟩
    have declares : d.Declares c' { c' with status := c'.status.withPhase .complete } s.2 := by
      refine ⟨rfl, fun _ => .inr ?_⟩
      rw [answered.2]
      exact (taken.completes deleting).append _
    refine ⟨after, ?_⟩
    cases a with
    | ok u => exact ⟨declares, after⟩
    | error e => exact ⟨declares, after⟩

/-- A status pass is orderly, and what it declares deleted, in hand or in the store, it has taken
down before. -/
theorem guarding_updateClusterStatus :
    Pass.Keeps (Freely k) (Guarding k d c prior)
      (fun _ c' s => d.Declares c c' s.2 ∧ Guarded k d c prior s)
      (fun _ c' s => d.Declares c c' s.2 ∧ Guarded k d c prior s) d.updateClusterStatus c
      (records, []) := by
  have guarded := guarded_start (d := d) start
  -- A cluster that is not being deleted stays one.
  have provisions (living : c.status.action ≠ .delete) :
      Pass.Keeps (Freely k) (Guarding k d c prior)
        (fun _ c' s => d.Declares c c' s.2 ∧ Guarded k d c prior s)
        (fun _ c' s => d.Declares c c' s.2 ∧ Guarded k d c prior s) d.provisioningPass c
        (records, []) := by
    have alive (c' : Cluster) (pursues : c.Pursues c') : c'.status ≠ .deleteComplete := by
      intro deleted
      rw [← pursues.action, deleted] at living
      exact living rfl
    have only := only_provisioningPass (d := d)
      (G := fun q => ¬d.Takes c q ∧ Keeper.Fits c.uuid (· ≠ .deleteComplete) q)
      (fun _ => ⟨id, trivial⟩) (fun _ _ => ⟨id, rfl⟩)
      (fun c' pursues => ⟨id, pursues.uuid, alive c' pursues⟩)
    refine (only.keeps (fun q s a s' ⟨keeps, fits⟩ guarded answered => ?_) guarded).imp ?_ ?_
    · have after := guarded.living faithful answered keeps fits
      exact ⟨after, after⟩
    · rintro _ c' s ⟨pursues, guarded⟩
      exact ⟨⟨pursues.uuid, fun is => absurd is (alive c' pursues)⟩, guarded⟩
    · rintro _ c' s ⟨pursues, guarded⟩
      exact ⟨⟨pursues.uuid, fun is => absurd is (alive c' pursues)⟩, guarded⟩
  unfold Deployment.updateClusterStatus
  rw [Pass.keeps_bind, Pass.keeps_get]
  split
  next unsettled =>
    cases action : c.status.action with
    | create | update => exact provisions (by simp [action])
    | delete =>
      have deleting : c.status = .deleteInProgress := by
        cases status : c.status with
        | mk a p =>
          rw [status] at action unsettled
          cases action
          cases unsettled
          rfl
      exact guarding_teardownPass faithful start deleting
  next => exact ⟨⟨rfl, .inl⟩, guarded⟩

end

end Deployment

end ClusterLifecycle
