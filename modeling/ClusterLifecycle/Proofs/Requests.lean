import ClusterLifecycle.Proofs.Logs
import ClusterLifecycle.Proofs.Parts

/-!
The requests that each operation on a cluster may make, whatever it is answered.

* looking reads objects, applying applies and deleting deletes them, and nothing else;
* deleting a cluster or a group of it deletes no secret;
* a status pass applies nothing, and each record that it saves is of the same cluster in the course
  of the same action, with the same groups.
-/

namespace ClusterLifecycle

/-- The request saves a record. -/
def ServiceRequest.Saves : ServiceRequest → Prop
  | saveCluster _ | saveNodeGroup .. => True
  | _ => False

/-- The request applies a manifest. -/
def ServiceRequest.Applies : ServiceRequest → Prop
  | apply _ => True
  | _ => False

/-- What the objects of a group are told apart by. -/
def NodeGroup.post (g : NodeGroup) : String × Role := (g.name, g.role)

def Cluster.roster (c : Cluster) : List (String × Role) := c.nodeGroups.map (·.post)

/-- The same cluster in the course of the same action, with groups of the same names and roles. -/
structure Cluster.Pursues (c c' : Cluster) : Prop where
  uuid : c'.uuid = c.uuid
  action : c'.status.action = c.status.action
  roster : c'.roster = c.roster

theorem Cluster.Pursues.rfl {c : Cluster} : c.Pursues c := ⟨Eq.refl _, Eq.refl _, Eq.refl _⟩

theorem Cluster.Pursues.trans {c c' c'' : Cluster} (h : c.Pursues c') (h' : c'.Pursues c'') :
    c.Pursues c'' :=
  ⟨h'.uuid.trans h.uuid, h'.action.trans h.action, h'.roster.trans h.roster⟩

/-- Nothing is known of what is returned. -/
abbrev Operation.Anything {α : Type} : α → Prop := fun _ => True

open Operation

namespace Credential

variable {G : ServiceRequest → Prop} {user : String} {id : Uuid}

theorem only_revoke (find : G (.findCredential user id.toString))
    (delete : ∀ credential, G (.deleteCredential user credential)) :
    Only G Anything (revoke user id) := by
  unfold revoke
  refine (only_mk (only_ask find)).orAbsent.bind fun found _ => ?_
  cases found with
  | none => exact only_pure trivial
  | some credential =>
    exact (only_mk (only_ask (delete _))).orAbsent.bind fun _ _ => only_pure trivial

theorem only_issue (user : String) (id : Uuid) (find : G (.findCredential user id.toString))
    (delete : ∀ credential, G (.deleteCredential user credential))
    (create : ∀ text, G (.createCredential user id.toString text)) :
    Only G Anything (issue user id) := by
  unfold issue
  refine (only_mk (only_ask find)).orAbsent.bind fun found _ => ?_
  have created : Only G Anything (createCredential user id.toString (description id) >>=
      fun created => liftM (ofCreated created)) :=
    (only_mk (only_ask (create _))).bind fun _ _ => only_result fun _ _ => trivial
  cases found with
  | none => exact created
  | some stale => exact (only_mk (only_ask (delete _))).bind fun _ _ => created

end Credential

namespace Deployment

variable {G : ServiceRequest → Prop} (d : Deployment) (k : ResourceKind) (c : Cluster)
  (g : Option NodeGroup)

theorem only_apply {credential : Option Credential}
    (applies : ∀ m, d.manifest k c g credential = .ok m → G (.apply m)) :
    Only G Anything (d.apply k c g credential) := by
  unfold apply
  cases drawn : d.manifest k c g credential with
  | error e => exact only_throw e
  | ok m => exact only_mk (only_ask (applies m drawn))

theorem only_delete (deletes : ∀ t, d.target k c g = .ok t → G (.delete t)) :
    Only G Anything (d.delete k c g) := by
  unfold delete
  cases named : d.target k c g with
  | error e => exact only_throw e
  | ok t => exact only_mk (only_ask (deletes t named))

theorem only_fetch (reads : ∀ t, G (.get t)) : Only G Anything (d.fetch k c g) := by
  unfold fetch
  refine (only_result (P := Anything) fun _ _ => trivial).bind fun t _ => ?_
  exact (only_mk (only_ask (reads t))).bind fun _ _ => only_pure trivial

theorem only_isPresent (reads : ∀ t, G (.get t)) : Only G Anything (d.isPresent k c) := by
  unfold isPresent
  exact (only_fetch d k c none reads).orAbsent.bind fun _ _ => only_pure trivial

theorem only_provision (applies : ∀ m, G (.apply m)) (g : NodeGroup) (sharedTemplate : Bool) :
    Only G Anything (d.provision c g sharedTemplate) := by
  rw [provision_eq]
  exact only_forM fun p _ => only_apply d p.1 c p.2 fun m _ => applies m

theorem only_deleteNodeGroup (g : NodeGroup)
    (deletes : ∀ t : ObjectRef, t.kind ≠ "Secret" → G (.delete t)) :
    Only G Anything (d.deleteNodeGroup c g) := by
  have delete (k : ResourceKind) (g : Option NodeGroup) (h : k.kind ≠ "Secret") :
      Only G Anything (d.delete k c g) := by
    refine only_delete d k c g fun t named => deletes t ?_
    rwa [target_kind named]
  unfold deleteNodeGroup
  cases g.role with
  | master =>
    refine (delete .controlPlane g (by decide)).bind fun _ _ => ?_
    exact delete .machineTemplate g (by decide)
  | worker =>
    refine (delete .machineDeployment g (by decide)).bind fun _ _ => ?_
    refine (delete .workerTemplate none (by decide)).bind fun _ _ => ?_
    exact delete .machineTemplate g (by decide)

theorem only_deleteCluster (deletes : ∀ t : ObjectRef, t.kind ≠ "Secret" → G (.delete t)) :
    Only G Anything (d.deleteCluster c) := by
  have delete (k : ResourceKind) (h : k.kind ≠ "Secret") :
      Only G Anything (d.delete k c none) := by
    refine only_delete d k c none fun t named => deletes t ?_
    rwa [target_kind named]
  unfold deleteCluster
  refine (delete .cluster (by decide)).bind fun _ _ => ?_
  refine (delete .openStackCluster (by decide)).bind fun _ _ => ?_
  exact only_forM fun g _ => only_deleteNodeGroup d c g deletes

/-- What is observed keeps its name and its role. -/
theorem only_observeNodeGroup (reads : ∀ t, G (.get t)) (g : NodeGroup) :
    Only G (fun g' => g'.post = g.post) (d.observeNodeGroup c g) := by
  unfold observeNodeGroup
  cases g.role with
  | master =>
    refine (only_fetch d _ c g reads).bind fun o _ => ?_
    exact (only_result (P := Anything) fun _ _ => trivial).bind fun _ _ => only_pure rfl
  | worker =>
    refine (only_fetch d _ c g reads).bind fun o _ => ?_
    exact (only_result (P := Anything) fun _ _ => trivial).bind fun _ _ => only_pure rfl

theorem only_updateNodeGroupStatus (reads : ∀ t, G (.get t))
    (g : NodeGroup) (saves : ∀ g', g'.post = g.post → G (.saveNodeGroup c.uuid g')) :
    Only G (fun g' => g'.post = g.post) (d.updateNodeGroupStatus c g) := by
  unfold updateNodeGroupStatus
  refine (only_observeNodeGroup d c reads g).bind fun g' same => ?_
  exact (only_mk (only_ask (saves g' same))).bind fun _ _ => only_pure same

theorem only_runningVersion (reads : ∀ t, G (.get t)) :
    Only G Anything (d.runningVersion c) := by
  unfold runningVersion
  generalize (none : Option String) = version
  induction c.masters generalizing version with
  | nil => exact only_pure (P := Anything) trivial
  | cons g rest ih =>
    rw [List.foldlM_cons]
    refine Only.bind (B := Anything) ?_ fun version _ => ih version
    refine (only_fetch d _ c g reads).bind fun o _ => ?_
    refine (only_result (P := Anything) fun _ _ => trivial).bind fun o _ => ?_
    exact (only_result (P := Anything) fun _ _ => trivial).bind fun _ _ => only_pure trivial

theorem only_applyParts {parts : List Part}
    (applies : ∀ p ∈ parts, ∀ m, d.manifest p.1 c p.2 none = .ok m → G (.apply m)) :
    Only G Anything (parts.forM (d.applyPart c)) :=
  only_forM fun p member => only_apply d p.1 c p.2 (applies p member)

/-- Nothing is applied but the parts of the cluster, and nothing is saved. -/
theorem only_createCluster (other : ∀ q, ¬q.Saves → ¬q.Applies → G q)
    (applies : ∀ p ∈ (.cloudConfigSecret, none) :: c.parts, ∀ credential m,
      d.manifest p.1 c p.2 credential = .ok m → G (.apply m)) :
    Only G Anything (d.createCluster c) := by
  have parts {l : List Part} (part : ∀ p ∈ l, p ∈ c.parts) :
      Only G Anything (l.forM (d.applyPart c)) :=
    only_applyParts d c fun p member => applies p (List.mem_cons_of_mem _ (part p member)) none
  have foundation := parts fun p (member : p ∈ c.foundation) =>
    show p ∈ c.parts from List.mem_append_left _ member
  have superstructure := parts fun p (member : p ∈ c.superstructure) =>
    show p ∈ c.parts from List.mem_append_right _ member
  rw [createCluster_eq]
  refine foundation.bind fun _ _ => Only.bind (B := Anything) ?_ fun _ _ => superstructure
  unfold applyCloudConfig
  refine (only_isPresent d _ c fun _ => other _ id id).bind fun present _ => ?_
  cases present with
  | true => exact only_pure trivial
  | false =>
    have issues := Credential.only_issue c.userId c.uuid (other _ id id) (fun _ => other _ id id)
      fun _ => other _ id id
    refine issues.bind fun credential _ => ?_
    exact only_apply d _ c none fun m drawn => applies _ List.mem_cons_self _ m drawn

section
variable (other : ∀ q, ¬q.Saves → G q)
include other

/-- A group is declared only in the record of a cluster that is not being deleted. -/
theorem only_addNodeGroup (g : NodeGroup)
    (saves : c.status.action ≠ .delete → G (.saveCluster (c.declaring g))) :
    Pass.Only G (fun _ => True) (fun _ _ => True) (d.addNodeGroup g) c := by
  rw [Pass.Only, addNodeGroup_eq, Pass.keeps_bind, Pass.keeps_get]
  split
  next => trivial
  next living =>
    rw [Pass.keeps_bind, Pass.keeps_set, Pass.keeps_bind]
    refine (Pass.only_lift (only_mk (only_ask (saves living))) trivial).imp_ok ?_
    intro _ c' _ _
    exact (Pass.only_lift (only_provision d _ (fun _ => other _ fun saves => saves) g true)
      trivial).imp_ok fun _ _ _ _ => trivial

end

section
variable {d c} {c' : Cluster} (reads : ∀ t, G (.get t))
  (saves : ∀ g, g.post ∈ c.roster → G (.saveNodeGroup c.uuid g))
include reads saves

theorem only_settleGroups (done groups : List NodeGroup) (h : c.Pursues c')
    (listed : (done ++ groups).map (·.post) = c.roster) :
    Pass.Only G c.Pursues (fun _ => c.Pursues) (d.settleGroups done groups) c' := by
  induction groups generalizing done c' with
  | nil => exact h
  | cons g rest ih =>
    unfold settleGroups
    rw [Pass.Only, Pass.keeps_bind, Pass.keeps_get]
    refine (Pass.only_lift (only_updateNodeGroupStatus d c' reads g ?_) h).bind ?_
    · intro g' same
      rw [h.uuid]
      apply saves
      rw [same, ← listed]
      exact List.mem_map_of_mem (List.mem_append_right _ List.mem_cons_self)
    · rintro g' c' ⟨same, rfl⟩
      have listed' : (done ++ [g'] ++ rest).map (·.post) = c.roster := by
        rw [← listed]
        simp [same]
      have after : c.Pursues { c' with nodeGroups := done ++ g' :: rest } := by
        refine ⟨h.uuid, h.action, ?_⟩
        rw [Cluster.roster, List.append_cons]
        exact listed'
      rw [Pass.Only, Pass.keeps_bind, Pass.keeps_modify]
      split
      · exact ih _ after listed'
      · exact after

theorem only_provisioningPass (savesAll : ∀ c', c.Pursues c' → G (.saveCluster c')) :
    Pass.Only G c.Pursues (fun _ => c.Pursues) d.provisioningPass c := by
  unfold provisioningPass
  rw [Pass.Only, Pass.keeps_bind, Pass.keeps_get]
  refine (Pass.only_lift (only_fetch d _ c none reads) .rfl).bind ?_
  rintro o c ⟨-, rfl⟩
  refine (Pass.only_result (P := fun _ c' => c' = c) _ .rfl fun _ => rfl).bind ?_
  rintro o c rfl
  split
  · refine (Pass.only_result (P := fun _ c' => c' = c) _ .rfl fun _ => rfl).bind ?_
    rintro address c rfl
    refine (only_settleGroups reads saves [] c.nodeGroups .rfl rfl).bind ?_
    intro settled c' h
    split
    · rw [Pass.Only, Pass.keeps_bind, Pass.keeps_get]
      refine (Pass.only_lift (only_runningVersion d c' reads) h).bind ?_
      rintro version c' ⟨-, rfl⟩
      have after : c.Pursues { c' with
          apiAddress := some address
          coeVersion := version.or c'.coeVersion
          status := c'.status.withPhase .complete } := ⟨h.uuid, h.action, h.roster⟩
      rw [Pass.Only, Pass.keeps_bind, Pass.keeps_set]
      refine (Pass.only_lift (only_mk (only_ask (savesAll _ after))) after).imp_ok ?_
      rintro _ c' _ ⟨-, rfl⟩
      exact after
    · exact h
  · exact Cluster.Pursues.rfl

end

section
variable {d c} (other : ∀ q, ¬q.Saves → ¬q.Applies → G q)
  (savesAll : ∀ c', c.Pursues c' → G (.saveCluster c'))
include other savesAll

theorem only_teardownPass :
    Pass.Only G c.Pursues (fun _ => c.Pursues) d.teardownPass c := by
  have deletes (kinds : List ResourceKind) :
      Pass.Only G c.Pursues (fun _ c' => c' = c) (kinds.forM fun k => (d.delete k c : Pass Unit))
        c := by
    refine Pass.keeps_forM (J := fun c' _ => c' = c) _ _ ?_ rfl
    intro k _ c' _ same
    rw [show c' = c from same]
    have deletion := only_delete d k c none fun _ _ => other _ id id
    exact (Pass.only_lift deletion Cluster.Pursues.rfl).imp_ok fun _ _ _ h => h.2
  unfold teardownPass
  rw [Pass.Only, Pass.keeps_bind, Pass.keeps_get]
  refine (Pass.only_lift (only_isPresent d _ c fun _ => other _ id id) .rfl).bind ?_
  rintro present c' ⟨-, rfl⟩
  split
  · exact Cluster.Pursues.rfl
  · have revokes : Only G Anything (Credential.revoke c'.userId c'.uuid) :=
      Credential.only_revoke (other _ id id) fun _ => other _ id id
    refine (Pass.only_lift revokes .rfl).bind ?_
    rintro _ c ⟨-, rfl⟩
    refine (deletes _).bind ?_
    rintro _ c' rfl
    have after : c'.Pursues { c' with status := c'.status.withPhase .complete } := ⟨rfl, rfl, rfl⟩
    rw [Pass.Only, Pass.keeps_bind, Pass.keeps_set]
    refine (Pass.only_lift (only_mk (only_ask (savesAll _ after))) after).imp_ok ?_
    rintro _ c _ ⟨-, rfl⟩
    exact after

/-- A status pass reads, deletes and saves. -/
theorem only_updateClusterStatus
    (savesGroups : ∀ g, g.post ∈ c.roster → G (.saveNodeGroup c.uuid g)) :
    Pass.Only G c.Pursues (fun _ => c.Pursues) d.updateClusterStatus c := by
  unfold updateClusterStatus
  rw [Pass.Only, Pass.keeps_bind, Pass.keeps_get]
  split
  · cases c.status.action with
    | create | update =>
      exact only_provisioningPass (fun _ => other _ id id) savesGroups savesAll
    | delete => exact only_teardownPass other savesAll
  · exact Cluster.Pursues.rfl

end

end Deployment

end ClusterLifecycle
