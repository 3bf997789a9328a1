import Mathlib.Data.List.Forall2
import ClusterLifecycle.Proofs.Recording
import ClusterLifecycle.Proofs.Removal
import ClusterLifecycle.Proofs.Teardown

/-!
The operations on a cluster as data: what each of them may ask, and what it may make of the record.

* `Procedure`: the operations, on the record in hand;
* `Procedure.Leaves`: the record that an operation leaves, wherever it ends;
* `Grants`: what is asked about a cluster, from its identity and its owner;
* `Procedure.walks`: every operation asks nothing else, and leaves what it may leave.
-/

namespace ClusterLifecycle

open Program Operation

/-- The operations on a cluster. Those on a group are given that group. -/
inductive Procedure where
  | createCluster
  | deleteCluster
  | updateClusterStatus
  | addNodeGroup (g : NodeGroup)
  | createNodeGroup (g : NodeGroup)
  | deleteNodeGroup (g : NodeGroup)
  | updateNodeGroupStatus (g : NodeGroup)
  | unsupported (op : UnsupportedOperation)

namespace Procedure

/-- An operation that is given the record in hand and leaves it as it is. -/
def reading (op : Cluster → Operation Unit) : Pass (Option NodeGroup) := do
  op (← get)
  return none

/-- The operation on the record in hand. A look at a group returns that group. -/
def pass (d : Deployment) : Procedure → Pass (Option NodeGroup)
  | createCluster => reading d.createCluster
  | deleteCluster => reading d.deleteCluster
  | updateClusterStatus => do
    d.updateClusterStatus
    return none
  | addNodeGroup g => do
    d.addNodeGroup g
    return none
  | createNodeGroup g => reading fun c => d.createNodeGroup c g
  | deleteNodeGroup g => reading fun c => d.deleteNodeGroup c g
  | updateNodeGroupStatus g => return some (← d.updateNodeGroupStatus (← get) g)
  | unsupported op => reading fun _ => op.run

end Procedure

/-- A group after a look at it: the phase of its status and the reason are all that may change. -/
def NodeGroup.Tracks (g g' : NodeGroup) : Prop :=
  ∃ phase reason, g' = { g with status := g.status.withPhase phase, statusReason := reason }

theorem NodeGroup.Tracks.rfl {g : NodeGroup} : g.Tracks g :=
  ⟨g.status.phase, g.statusReason, Eq.refl _⟩

theorem NodeGroup.Tracks.trans {g g' g'' : NodeGroup} (h : g.Tracks g') (h' : g'.Tracks g'') :
    g.Tracks g'' := by
  obtain ⟨_, _, rfl⟩ := h
  obtain ⟨phase, reason, rfl⟩ := h'
  exact ⟨phase, reason, Eq.refl _⟩

theorem NodeGroup.tracks_rfl (groups : List NodeGroup) : List.Forall₂ Tracks groups groups :=
  List.forall₂_same.2 fun _ _ => .rfl

theorem NodeGroup.tracks_trans {groups groups' groups'' : List NodeGroup}
    (h : List.Forall₂ Tracks groups groups') (h' : List.Forall₂ Tracks groups' groups'') :
    List.Forall₂ Tracks groups groups'' := by
  induction h generalizing groups'' with
  | nil => exact h'
  | cons first _ ih =>
    cases h' with
    | cons first' others => exact .cons (first.trans first') (ih others)

theorem NodeGroup.tracks_afterControlPlane (g : NodeGroup) (o : ControlPlaneObservation) :
    g.Tracks (g.afterControlPlane o) := by
  unfold afterControlPlane
  split
  · exact ⟨.complete, o.failureMessage, Eq.refl _⟩
  · exact ⟨g.status.phase, o.failureMessage, Eq.refl _⟩

theorem NodeGroup.tracks_afterDeployment (g : NodeGroup) (o : DeploymentObservation) :
    g.Tracks (g.afterDeployment o) := by
  unfold afterDeployment DeploymentPhase.status?
  cases o.phase with
  | scalingUp | scalingDown => exact ⟨.inProgress, g.statusReason, Eq.refl _⟩
  | running => exact ⟨.complete, g.statusReason, Eq.refl _⟩
  | failed | unknown => exact ⟨.failed, g.statusReason, Eq.refl _⟩
  | other text => exact .rfl

namespace Cluster

/-- A record after a status pass. The status stays, or what was going on is complete; the groups are
the same ones in the same order. -/
structure Tracks (c c' : Cluster) : Prop where
  status : c'.status = c.status ∨
    c.status.phase = .inProgress ∧ c'.status = c.status.withPhase .complete
  nodeGroups : List.Forall₂ NodeGroup.Tracks c.nodeGroups c'.nodeGroups
  others : c' = { c with
    status := c'.status
    apiAddress := c'.apiAddress
    coeVersion := c'.coeVersion
    nodeGroups := c'.nodeGroups }

theorem Tracks.rfl {c : Cluster} : c.Tracks c :=
  ⟨.inl (Eq.refl _), NodeGroup.tracks_rfl _, Eq.refl _⟩

theorem Tracks.follows {c c' : Cluster} (h : c.Tracks c') : c.Follows c' where
  uuid := by rw [h.others]
  userId := by rw [h.others]

/-- The record once groups that were `groups` have been looked at, and nothing else. -/
def Surveyed (c : Cluster) (groups : List NodeGroup) (c' : Cluster) : Prop :=
  ∃ groups', List.Forall₂ NodeGroup.Tracks groups groups' ∧ c' = c.withGroups groups'

end Cluster

namespace Procedure

/-- The record that the operation leaves, whether or not it succeeds. -/
def Leaves (c c' : Cluster) : Procedure → Prop
  | updateClusterStatus => c.Tracks c'
  | addNodeGroup g => c' = if c.status.action = .delete then c else c.declaring g
  | _ => c' = c

/-- What the operation returns. -/
def Returns (r : Option NodeGroup) : Procedure → Prop
  | updateNodeGroupStatus g => ∃ g', r = some g' ∧ g.Tracks g'
  | _ => r = none

theorem Leaves.follows {c c' : Cluster} {p : Procedure} (h : p.Leaves c c') : c.Follows c' := by
  cases p with
  | updateClusterStatus => exact Cluster.Tracks.follows h
  | addNodeGroup g =>
    change c' = _ at h
    rw [h]
    split <;> exact ⟨rfl, rfl⟩
  | _ => cases h; exact .rfl

end Procedure

/-- What is asked about a cluster: to apply, delete and read its objects, to find, create and delete
the credential that is found for it, and to save its record. The namespace that it shares with other
clusters is only applied. -/
structure Grants (R : Conduct services Unit) (G : ServiceRequest → Prop) (d : Deployment)
    (c : Cluster) : Prop where
  apply : ∀ {c' k g credential m}, c.Follows c' → d.manifest k c' g credential = .ok m →
    G (.apply m)
  delete : ∀ {c' k g t}, c.Follows c' → k ≠ .sharedNamespace → d.target k c' g = .ok t →
    G (.delete t)
  get : ∀ {c' k g t}, c.Follows c' → k ≠ .sharedNamespace → d.target k c' g = .ok t → G (.get t)
  find : G (.findCredential c.userId c.uuid.toString)
  create : ∀ text, G (.createCredential c.userId c.uuid.toString text)
  revoke : ∀ {credential}, R (.findCredential c.userId c.uuid.toString) () (.ok credential) () →
    G (.deleteCredential c.userId credential.id)
  saveCluster : ∀ {c'}, c.Follows c' → G (.saveCluster c')
  saveNodeGroup : ∀ g, G (.saveNodeGroup c.uuid g)

theorem Grants.follows {R : Conduct services Unit} {G : ServiceRequest → Prop} {d : Deployment}
    {c c' : Cluster} (grants : Grants R G d c) (follows : c.Follows c') : Grants R G d c' where
  apply later := grants.apply (follows.trans later)
  delete later := grants.delete (follows.trans later)
  get later := grants.get (follows.trans later)
  find := by rw [follows.uuid, follows.userId]; exact grants.find
  create text := by rw [follows.uuid, follows.userId]; exact grants.create text
  revoke found := by
    rw [follows.uuid, follows.userId] at found
    rw [follows.userId]
    exact grants.revoke found
  saveCluster later := grants.saveCluster (follows.trans later)
  saveNodeGroup g := by rw [follows.uuid]; exact grants.saveNodeGroup g

theorem grants_anyhow (d : Deployment) (c : Cluster) : Grants Anyhow (fun _ => True) d c := by
  constructor <;> intros <;> trivial

namespace Operation

variable {α β : Type} {R : Conduct services Unit} {G : ServiceRequest → Prop} {P : α → Prop}

/-- Where it is answered as `R` says, the operation asks only what `G` admits. -/
def Walks (R : Conduct services Unit) (G : ServiceRequest → Prop) (P : α → Prop)
    (op : Operation α) : Prop :=
  Keeps R (fun q _ _ _ => G q) (fun _ _ => True) (fun a _ => P a) op ()

theorem walks_pure {a : α} (holds : P a) : Walks R G P (pure a) := holds

theorem walks_throw (e : Error) : Walks R G P (throw e) := trivial

theorem walks_mk {p : Program services (Result α)}
    (h : p.Ensures R (fun q _ _ _ => G q) (fun r _ => ∀ a, r = .ok a → P a) ()) :
    Walks R G P (ExceptT.mk p) := by
  refine h.imp ?_
  rintro r _ ok
  cases r with
  | ok a => exact ok a rfl
  | error e => trivial

theorem walks_result {r : Result α} (h : ∀ a, r = .ok a → P a) : Walks R G P (liftM r) := by
  refine (keeps_result r).2 ?_
  cases r with
  | ok a => exact h a rfl
  | error e => trivial

theorem Walks.imp {P' : α → Prop} {op : Operation α} (h : Walks R G P op)
    (weaker : ∀ a, P a → P' a) : Walks R G P' op :=
  Keeps.imp_ok h fun a _ => weaker a

theorem Walks.bind {B : β → Prop} {op : Operation β} {f : β → Operation α}
    (first : Walks R G B op) (rest : ∀ b, B b → Walks R G P (f b)) : Walks R G P (op >>= f) :=
  Keeps.bind first fun b _ => rest b

/-- What is made of a value that is given. -/
theorem walks_given {r : Result β} {f : β → Operation α} (rest : ∀ b, Walks R G P (f b)) :
    Walks R G P (liftM r >>= f) :=
  (walks_result (P := Anything) fun _ _ => trivial).bind fun b _ => rest b

theorem walks_forM {ι : Type} {f : ι → Operation Unit} {l : List ι}
    (round : ∀ i ∈ l, Walks R G Anything (f i)) : Walks R G Anything (l.forM f) :=
  keeps_forM (J := fun _ => True) f l (fun i member _ _ => round i member) trivial

theorem Walks.orAbsent {op : Operation α} (h : Walks R G P op) :
    Walks R G (fun found => ∀ a, found = some a → P a) (orAbsent op) := by
  refine (keeps_orAbsent op).2 (Keeps.imp h ?_ ?_)
  · rintro e _ -
    split
    · exact nofun
    · trivial
  · rintro a _ holds _ ⟨⟩
    exact holds

end Operation

namespace Pass

variable {α β : Type} {R : Conduct services Unit} {G : ServiceRequest → Prop} {c : Cluster}
  {E : Cluster → Prop} {P : α → Cluster → Prop}

/-- The same for a pass, where the record in hand ends as `E` says, or `P` where it succeeds. -/
def Walks (R : Conduct services Unit) (G : ServiceRequest → Prop) (E : Cluster → Prop)
    (P : α → Cluster → Prop) (pass : Pass α) (c : Cluster) : Prop :=
  Keeps R (fun q _ _ _ => G q) (fun _ c' _ => E c') (fun a c' _ => P a c') pass c ()

theorem walks_lift {P : α → Prop} {op : Operation α} (h : op.Walks R G P) (stays : E c) :
    Walks R G E (fun a c' => P a ∧ c' = c) (liftM op) c :=
  (keeps_lift op).2 (Operation.Keeps.imp h (fun _ _ _ => stays) fun _ _ holds => ⟨holds, rfl⟩)

theorem walks_result (r : Result α) (stays : E c) :
    Walks R G E (fun _ c' => c' = c) (liftM r : Pass α) c := by
  refine (keeps_result r).2 ?_
  cases r with
  | ok a => exact rfl
  | error e => exact stays

theorem Walks.bind {B : β → Cluster → Prop} {pass : Pass β} {f : β → Pass α}
    (first : Walks R G E B pass c) (rest : ∀ b c, B b c → Walks R G E P (f b) c) :
    Walks R G E P (pass >>= f) c :=
  Keeps.bind first fun b c _ => rest b c

/-- Where the services may answer anything, so they may in any surroundings. -/
theorem Walks.at_end {σ : Type} {R : Conduct services σ} {pass : Pass α} {r : Result α}
    {c' : Cluster} {s t : σ} (h : Walks Anyhow G E P pass c)
    (reached : Reaches R (pass.run.run c) s (.done (r, c')) t) :
    Operation.Ends (fun _ _ => E c') (fun a _ => P a c') r () := by
  have only : Only G E P pass c := h
  have keeps := only.keeps (R := R) (T := fun _ _ _ _ => True) (J := fun _ => True) (s := s)
    (fun _ _ _ _ _ _ _ => ⟨trivial, trivial⟩) trivial
  have ends := Ensures.at_end keeps reached
  cases r with
  | ok a => exact ends.1
  | error e => exact ends.1

end Pass

namespace Deployment

theorem tracks_middle {groups done rest : List NodeGroup} {g g' : NodeGroup}
    (tracks : List.Forall₂ NodeGroup.Tracks groups (done ++ g :: rest)) (tracked : g.Tracks g') :
    List.Forall₂ NodeGroup.Tracks groups (done ++ g' :: rest) := by
  induction done generalizing groups with
  | nil =>
    cases tracks with
    | cons first others => exact .cons (first.trans tracked) others
  | cons x done ih =>
    cases tracks with
    | cons first others => exact .cons first (ih others)

theorem unshared_groupParts {g : NodeGroup} {p : Part} (own : p ∈ g.parts true) :
    p.1 ≠ .sharedNamespace := by
  unfold NodeGroup.parts at own
  cases role : g.role <;>
    simp only [role, ↓reduceIte, List.cons_append, List.nil_append, List.mem_cons,
      List.not_mem_nil, or_false] at own <;>
    rcases own with rfl | rfl | rfl <;> exact nofun

variable {R : Conduct services Unit} {G : ServiceRequest → Prop} {d : Deployment} {c : Cluster}
  {k : ResourceKind} (grants : Grants R G d c)
include grants

theorem walks_apply (k : ResourceKind) (g : Option NodeGroup) (credential : Option Credential) :
    Walks R G Anything (d.apply k c g credential) := by
  unfold apply
  cases drawn : d.manifest k c g credential with
  | error e => exact walks_throw e
  | ok m => exact walks_mk fun _ _ _ => ⟨grants.apply .rfl drawn, fun _ _ => trivial⟩

theorem walks_delete (other : k ≠ .sharedNamespace) (g : Option NodeGroup) :
    Walks R G Anything (d.delete k c g) := by
  unfold delete
  cases named : d.target k c g with
  | error e => exact walks_throw e
  | ok t => exact walks_mk fun _ _ _ => ⟨grants.delete .rfl other named, fun _ _ => trivial⟩

theorem walks_fetch (other : k ≠ .sharedNamespace) (g : Option NodeGroup) :
    Walks R G Anything (d.fetch k c g) := by
  unfold fetch
  cases named : d.target k c g with
  | error e => exact walks_throw e
  | ok t =>
    have read : Walks R G Anything (getObject t) :=
      walks_mk fun _ _ _ => ⟨grants.get .rfl other named, fun _ _ => trivial⟩
    exact read.bind fun _ _ => walks_pure trivial

theorem walks_isPresent (other : k ≠ .sharedNamespace) : Walks R G Anything (d.isPresent k c) := by
  unfold isPresent
  exact (walks_fetch grants other none).orAbsent.bind fun _ _ => walks_pure trivial

/-- The credential that is found is the one that is then deleted. -/
theorem walks_find : Walks R G (fun found => ∀ a : ApplicationCredential, found = some a →
      Walks R G Anything (deleteCredential c.userId a.id))
    (orAbsent (findCredential c.userId c.uuid.toString)) := by
  have find : Walks R G (fun a => R (.findCredential c.userId c.uuid.toString) () (.ok a) ())
      (findCredential c.userId c.uuid.toString) :=
    walks_mk fun r _ found => ⟨grants.find, fun a is => is ▸ found⟩
  refine find.orAbsent.imp fun found known a is => ?_
  exact walks_mk fun _ _ _ => ⟨grants.revoke (known a is), fun _ _ => trivial⟩

theorem walks_revoke : Walks R G Anything (Credential.revoke c.userId c.uuid) := by
  unfold Credential.revoke
  refine (walks_find grants).bind fun found delete => ?_
  cases found with
  | none => exact walks_pure trivial
  | some a => exact (delete a rfl).orAbsent.bind fun _ _ => walks_pure trivial

theorem walks_issue : Walks R G Anything (Credential.issue c.userId c.uuid) := by
  have create : Walks R G Anything (createCredential c.userId c.uuid.toString
      (Credential.description c.uuid) >>= fun created => liftM (Credential.ofCreated created)) := by
    refine Walks.bind (B := Anything)
      (walks_mk fun _ _ _ => ⟨grants.create _, fun _ _ => trivial⟩) fun _ _ => ?_
    exact walks_result fun _ _ => trivial
  unfold Credential.issue
  refine (walks_find grants).bind fun found delete => ?_
  cases found with
  | none => exact create
  | some stale => exact (delete stale rfl).bind fun _ _ => create

theorem walks_applyParts (parts : List Part) : Walks R G Anything (parts.forM (d.applyPart c)) :=
  walks_forM fun p _ => walks_apply grants p.1 p.2 none

theorem walks_deleteParts {parts : List Part} (other : ∀ p ∈ parts, p.1 ≠ .sharedNamespace) :
    Walks R G Anything (parts.forM (d.deletePart c)) :=
  walks_forM fun p member => walks_delete grants (other p member) p.2

theorem walks_createCluster : Walks R G Anything (d.createCluster c) := by
  rw [createCluster_eq]
  refine (walks_applyParts grants _).bind fun _ _ => Walks.bind (B := Anything) ?_
    fun _ _ => walks_applyParts grants _
  unfold applyCloudConfig
  refine (walks_isPresent grants (by decide)).bind fun present _ => ?_
  cases present with
  | true => exact walks_pure trivial
  | false =>
    exact (walks_issue grants).bind fun credential _ => walks_apply grants _ none (some credential)

theorem walks_createNodeGroup (g : NodeGroup) : Walks R G Anything (d.createNodeGroup c g) := by
  rw [createNodeGroup, provision_eq]
  exact walks_applyParts grants _

theorem walks_deleteNodeGroup (g : NodeGroup) : Walks R G Anything (d.deleteNodeGroup c g) := by
  rw [deleteNodeGroup_eq]
  exact walks_deleteParts grants fun p own => unshared_groupParts (List.mem_reverse.1 own)

theorem walks_deleteCluster : Walks R G Anything (d.deleteCluster c) := by
  rw [deleteCluster_eq]
  refine walks_deleteParts grants fun p member => ?_
  simp only [Cluster.frame, List.mem_cons, List.mem_flatMap, List.mem_reverse] at member
  rcases member with rfl | rfl | ⟨g, -, own⟩
  · decide
  · decide
  · exact unshared_groupParts own

theorem walks_observeNodeGroup (g : NodeGroup) :
    Walks R G g.Tracks (d.observeNodeGroup c g) := by
  unfold observeNodeGroup
  cases g.role with
  | master =>
    refine (walks_fetch grants (by decide) g).bind fun o _ => ?_
    exact walks_given fun o => walks_pure (g.tracks_afterControlPlane o)
  | worker =>
    refine (walks_fetch grants (by decide) g).bind fun o _ => ?_
    exact walks_given fun o => walks_pure (g.tracks_afterDeployment o)

theorem walks_updateNodeGroupStatus (g : NodeGroup) :
    Walks R G g.Tracks (d.updateNodeGroupStatus c g) := by
  unfold updateNodeGroupStatus
  refine (walks_observeNodeGroup grants g).bind fun g' tracks => ?_
  refine Walks.bind (B := Anything)
    (walks_mk fun _ _ _ => ⟨grants.saveNodeGroup g', fun _ _ => trivial⟩) fun _ _ => ?_
  exact walks_pure tracks

theorem walks_runningVersion : Walks R G Anything (d.runningVersion c) := by
  unfold runningVersion
  generalize (none : Option String) = version
  induction c.masters generalizing version with
  | nil => exact walks_pure trivial
  | cons g rest ih =>
    rw [List.foldlM_cons]
    refine Walks.bind (B := Anything) ?_ fun version _ => ih version
    refine (walks_fetch grants (by decide) g).bind fun o _ => ?_
    exact walks_given fun o => walks_given fun _ => walks_pure trivial

/-- The groups are looked at from the first on; the others stay as they are. -/
theorem walks_settleGroups {done rest : List NodeGroup} {groups : List NodeGroup}
    (tracks : List.Forall₂ NodeGroup.Tracks groups (done ++ rest)) :
    Pass.Walks R G (c.Surveyed groups) (fun _ => c.Surveyed groups) (d.settleGroups done rest)
      (c.withGroups (done ++ rest)) := by
  induction rest generalizing done with
  | nil => exact ⟨_, tracks, rfl⟩
  | cons g rest ih =>
    have follows : c.Follows (c.withGroups (done ++ g :: rest)) := ⟨rfl, rfl⟩
    unfold settleGroups
    rw [Pass.Walks, Pass.keeps_bind, Pass.keeps_get]
    refine Pass.Walks.bind (Pass.walks_lift
      (walks_updateNodeGroupStatus (grants.follows follows) g) ⟨_, tracks, rfl⟩) ?_
    rintro g' c' ⟨tracked, rfl⟩
    have tracks' : List.Forall₂ NodeGroup.Tracks groups (done ++ g' :: rest) :=
      tracks_middle tracks tracked
    rw [Pass.Walks, Pass.keeps_bind, Pass.keeps_modify]
    change Pass.Walks R G _ _ (if g'.status.isComplete then d.settleGroups (done ++ [g']) rest
      else pure false) (c.withGroups (done ++ g' :: rest))
    have moved : done ++ g' :: rest = done ++ [g'] ++ rest := List.append_cons _ _ _
    split
    · rw [moved] at tracks' ⊢
      exact ih tracks'
    · exact ⟨_, tracks', rfl⟩

theorem walks_provisioningPass (running : c.status.phase = .inProgress) :
    Pass.Walks R G c.Tracks (fun _ => c.Tracks) d.provisioningPass c := by
  have surveyed (c' : Cluster) (h : c.Surveyed c.nodeGroups c') : c.Tracks c' := by
    obtain ⟨groups, tracks, rfl⟩ := h
    exact ⟨.inl rfl, tracks, rfl⟩
  unfold provisioningPass
  rw [Pass.Walks, Pass.keeps_bind, Pass.keeps_get]
  refine Pass.Walks.bind (Pass.walks_lift (walks_fetch grants (by decide) none) .rfl) ?_
  rintro o c ⟨-, rfl⟩
  refine (Pass.walks_result _ .rfl).bind ?_
  rintro o c rfl
  split
  · refine (Pass.walks_result _ .rfl).bind ?_
    rintro address c rfl
    have settle : Pass.Walks R G (c.Surveyed c.nodeGroups) (fun _ => c.Surveyed c.nodeGroups)
        (d.settleGroups [] c.nodeGroups) c :=
      walks_settleGroups grants (NodeGroup.tracks_rfl _)
    refine Pass.Walks.bind (Pass.Keeps.imp settle (fun _ c' _ => surveyed c') fun _ _ _ h => h) ?_
    rintro settled c' h
    split
    · obtain ⟨groups, tracks, rfl⟩ := h
      have follows : c.Follows (c.withGroups groups) := ⟨rfl, rfl⟩
      rw [Pass.Walks, Pass.keeps_bind, Pass.keeps_get]
      refine Pass.Walks.bind (Pass.walks_lift (walks_runningVersion (grants.follows follows))
        (surveyed _ ⟨groups, tracks, rfl⟩)) ?_
      rintro version _ ⟨-, rfl⟩
      have after : c.Tracks { c.withGroups groups with
          apiAddress := some address
          coeVersion := version.or (c.withGroups groups).coeVersion
          status := (c.withGroups groups).status.withPhase .complete } :=
        ⟨.inr ⟨running, rfl⟩, tracks, rfl⟩
      rw [Pass.Walks, Pass.keeps_bind, Pass.keeps_set]
      refine Pass.Keeps.imp_ok (Pass.walks_lift (P := Anything) (walks_mk fun _ _ _ =>
        ⟨grants.saveCluster after.follows, fun _ _ => trivial⟩) after) ?_
      rintro _ _ _ ⟨-, rfl⟩
      exact after
    · exact surveyed c' h
  · exact Cluster.Tracks.rfl

theorem walks_teardownPass (running : c.status.phase = .inProgress) :
    Pass.Walks R G c.Tracks (fun _ => c.Tracks) d.teardownPass c := by
  rw [Pass.Walks, Pass.keeps_teardownPass_iff]
  have stays (e : Error) (_ : Unit) (_ : True) : c.Tracks c := .rfl
  refine Keeps.imp (walks_isPresent grants (by decide)) stays fun present _ _ => ?_
  split
  · exact .rfl
  · refine Keeps.imp (walks_revoke grants) stays fun _ _ _ => ?_
    have deletes : Walks R G Anything ((ResourceKind.cloudConfigSecret ::
        ResourceKind.authorities).forM fun k => d.delete k c) := by
      refine walks_forM fun k member => walks_delete grants ?_ none
      rintro rfl
      revert member
      decide
    refine Keeps.imp deletes stays fun _ _ _ => ?_
    have after : c.Tracks { c with status := c.status.withPhase .complete } :=
      ⟨.inr ⟨running, rfl⟩, NodeGroup.tracks_rfl _, rfl⟩
    have saves : Walks R G Anything
        (saveCluster { c with status := c.status.withPhase .complete }) :=
      walks_mk fun _ _ _ => ⟨grants.saveCluster after.follows, fun _ _ => trivial⟩
    exact Keeps.imp saves (fun _ _ _ => after) fun _ _ _ => after

theorem walks_updateClusterStatus :
    Pass.Walks R G c.Tracks (fun _ => c.Tracks) d.updateClusterStatus c := by
  unfold updateClusterStatus
  rw [Pass.Walks, Pass.keeps_bind, Pass.keeps_get]
  split
  next running =>
    cases c.status.action with
    | create | update => exact walks_provisioningPass grants running
    | delete => exact walks_teardownPass grants running
  next => exact Cluster.Tracks.rfl

omit grants in
theorem tracks_updateClusterStatus {σ : Type} {R : Conduct services σ} {r : Result Unit}
    {c' : Cluster} {s t : σ}
    (reached : Reaches R (d.updateClusterStatus.run.run c) s (.done (r, c')) t) : c.Tracks c' := by
  have ends := (walks_updateClusterStatus (grants_anyhow d c)).at_end reached
  cases r with
  | ok u => exact ends
  | error e => exact ends

theorem walks_addNodeGroup (g : NodeGroup) :
    Pass.Walks R G ((Procedure.addNodeGroup g).Leaves c)
      (fun _ => (Procedure.addNodeGroup g).Leaves c) (d.addNodeGroup g) c := by
  rw [addNodeGroup_eq, Pass.Walks, Pass.keeps_bind, Pass.keeps_get]
  split
  next deleting => exact (if_pos deleting).symm
  next living =>
    have follows : c.Follows (c.declaring g) := ⟨rfl, rfl⟩
    have after : (Procedure.addNodeGroup g).Leaves c (c.declaring g) := (if_neg living).symm
    rw [Pass.keeps_bind, Pass.keeps_set]
    refine Pass.Walks.bind (Pass.walks_lift (P := Anything) (walks_mk fun _ _ _ =>
      ⟨grants.saveCluster follows, fun _ _ => trivial⟩) after) ?_
    rintro _ _ ⟨-, rfl⟩
    have create := walks_createNodeGroup (grants.follows follows) g
    refine Pass.Keeps.imp_ok (Pass.walks_lift create after) ?_
    rintro _ _ _ ⟨-, rfl⟩
    exact after

end Deployment

namespace Procedure

variable {R : Conduct services Unit} {G : ServiceRequest → Prop} {d : Deployment} {c : Cluster}

theorem walks_reading {op : Cluster → Operation Unit} (h : (op c).Walks R G Anything) :
    Pass.Walks R G (fun c' => c' = c) (fun r c' => r = none ∧ c' = c) (reading op) c := by
  unfold reading
  rw [Pass.Walks, Pass.keeps_bind, Pass.keeps_get]
  refine Pass.Walks.bind (Pass.walks_lift h rfl) ?_
  rintro _ _ ⟨-, rfl⟩
  exact ⟨rfl, rfl⟩

/-- Every operation asks only what is asked about its cluster, and leaves what it may leave. -/
theorem walks (grants : Grants R G d c) (p : Procedure) :
    Pass.Walks R G (fun c' => p.Leaves c c') (fun r c' => p.Returns r ∧ p.Leaves c c')
      (p.pass d) c := by
  cases p with
  | createCluster => exact walks_reading (Deployment.walks_createCluster grants)
  | deleteCluster => exact walks_reading (Deployment.walks_deleteCluster grants)
  | updateClusterStatus =>
    refine (Deployment.walks_updateClusterStatus grants).bind fun _ c' tracks => ?_
    exact ⟨rfl, tracks⟩
  | addNodeGroup g =>
    refine (Deployment.walks_addNodeGroup grants g).bind fun _ c' leaves => ?_
    exact ⟨rfl, leaves⟩
  | createNodeGroup g => exact walks_reading (Deployment.walks_createNodeGroup grants g)
  | deleteNodeGroup g => exact walks_reading (Deployment.walks_deleteNodeGroup grants g)
  | updateNodeGroupStatus g =>
    unfold pass
    rw [Pass.Walks, Pass.keeps_bind, Pass.keeps_get]
    refine Pass.Walks.bind
      (Pass.walks_lift (Deployment.walks_updateNodeGroupStatus grants g) rfl) ?_
    rintro g' _ ⟨tracks, rfl⟩
    exact ⟨⟨g', rfl, tracks⟩, rfl⟩
  | unsupported op => exact walks_reading (walks_throw _)

end Procedure

end ClusterLifecycle
