import ClusterLifecycle.Proofs.Names
import ClusterLifecycle.Proofs.Procedures

/-!
What the operations on a cluster concern, which is never another cluster's.

* `ObjectRef.Bears`: an object bears the identity that its name begins with, and no other;
* `IdentityService`: credentials in accounts, one for each user and name;
* `ServiceRequest.Concerns`: what may be asked about a cluster;
* `Procedure.concerns`: no operation asks about anything else.
-/

namespace ClusterLifecycle

open Program Operation

/-- The object bears the identity in its name. The namespace that clusters share bears none. -/
def ObjectRef.Bears (t : ObjectRef) (id : Uuid) : Prop :=
  t.kind ≠ ResourceKind.sharedNamespace.kind ∧ id.toList <+: t.name.toList

theorem ObjectRef.Bears.unique {t : ObjectRef} {id id' : Uuid} (h : t.Bears id)
    (h' : t.Bears id') : id = id' := by
  have lengths : id.toList.length = id'.toList.length := by
    rw [Uuid.length_toList, Uuid.length_toList]
  have first : id.toList <+: id'.toList :=
    List.prefix_of_prefix_length_le h.2 h'.2 (Nat.le_of_eq lengths)
  exact Uuid.toString_injective (congrArg String.ofList (first.eq_of_length lengths))

namespace Deployment

variable {d : Deployment} {c c' : Cluster} {k : ResourceKind} {g : Option NodeGroup}

theorem target_bears {t : ObjectRef} (follows : c.Follows c') (other : k ≠ .sharedNamespace)
    (named : d.target k c' g = .ok t) : t.Bears c.uuid := by
  constructor
  · rw [target_kind named]
    revert other
    cases k <;> decide
  · rw [← follows.uuid, target_name other named, String.toList_append, Uuid.toString,
      String.toList_ofList]
    exact List.prefix_append _ _

/-- The namespace is the same for all clusters, and so is its manifest. -/
def sharedManifest (d : Deployment) : Manifest where
  target := { apiVersion := "v1", kind := "Namespace", name := d.scope, scope := none }
  labels := Manifest.labelled []
  content := []

theorem manifest_shared (d : Deployment) (c : Cluster) (g : Option NodeGroup)
    (credential : Option Credential) :
    d.manifest .sharedNamespace c g credential = .ok d.sharedManifest := rfl

theorem not_bears_shared (d : Deployment) (id : Uuid) : ¬d.sharedManifest.target.Bears id :=
  fun bears => bears.1 rfl

end Deployment

/-- An identity service with an account for each user and name, which is all that is seen or changed
where that user and name are asked about. A credential is deleted by its id, which belongs to a name
of its user and to no other. -/
structure IdentityService (τ : Type) where
  find : String → String → τ → Result ApplicationCredential
  create : String → String → String → τ → Result ApplicationCredential × τ
  delete : String → String → τ → Result Unit × τ
  /-- The name that an id of the user belongs to. -/
  nameOf : String → String → String
  found {user name : String} {account : τ} {credential : ApplicationCredential} :
    find user name account = .ok credential → nameOf user credential.id = name

/-- What is found under a name belongs to that name. -/
def IdentityService.Answers {τ : Type} (ids : IdentityService τ) : Conduct services Unit
  | .findCredential user name, _, a, _ =>
    ∀ credential, a = Except.ok credential → ids.nameOf user credential.id = name
  | _, _, _, _ => True

/-- The request is about the objects, the credential or the record of the cluster, or it applies the
namespace that all clusters share. -/
def ServiceRequest.Concerns {τ : Type} (d : Deployment) (ids : IdentityService τ) (c : Cluster) :
    ServiceRequest → Prop
  | .apply m => m.target.Bears c.uuid ∨ m = d.sharedManifest
  | .delete t | .get t => t.Bears c.uuid
  | .findCredential user name | .createCredential user name _ =>
    user = c.userId ∧ name = c.uuid.toString
  | .deleteCredential user id => user = c.userId ∧ ids.nameOf user id = c.uuid.toString
  | .saveCluster c' => c'.uuid = c.uuid
  | .saveNodeGroup id _ => id = c.uuid

namespace ServiceRequest

/-- The request changes or removes the object. -/
def Writes (t : ObjectRef) : ServiceRequest → Prop
  | .apply m => m.target = t
  | .delete t' => t' = t
  | _ => False

variable {τ : Type} {d : Deployment} {ids : IdentityService τ} {c c' : Cluster}
  {q q' : ServiceRequest} {t : ObjectRef}

theorem Concerns.writes (concerns : q.Concerns d ids c) (writes : q.Writes t) :
    t.Bears c.uuid ∨ q = .apply d.sharedManifest ∧ t = d.sharedManifest.target := by
  cases q with
  | apply m =>
    cases writes
    rcases concerns with bears | rfl
    · exact .inl bears
    · exact .inr ⟨rfl, rfl⟩
  | delete t' =>
    cases writes
    exact .inl concerns
  | _ => exact writes.elim

/-- Nothing that concerns one cluster or the other is written for both, but for the namespace, to
which the same manifest is applied. -/
theorem Concerns.shared (apart : c.uuid ≠ c'.uuid) (concerns : q.Concerns d ids c)
    (concerns' : q'.Concerns d ids c') (writes : q.Writes t) (writes' : q'.Writes t) :
    q = .apply d.sharedManifest ∧ q' = .apply d.sharedManifest := by
  rcases concerns.writes writes with bears | ⟨shared, is⟩
  · rcases concerns'.writes writes' with bears' | ⟨-, is⟩
    · exact absurd (bears.unique bears') apart
    · exact absurd (is ▸ bears) (d.not_bears_shared c.uuid)
  · rcases concerns'.writes writes' with bears' | ⟨shared', -⟩
    · exact absurd (is ▸ bears') (d.not_bears_shared c'.uuid)
    · exact ⟨shared, shared'⟩

end ServiceRequest

section
variable {τ : Type} (d : Deployment) (ids : IdentityService τ) (c : Cluster)

theorem grants_concerns : Grants ids.Answers (ServiceRequest.Concerns d ids c) d c where
  apply {c' k _ _ _} follows drawn := by
    by_cases shared : k = .sharedNamespace
    · rw [shared, Deployment.manifest_shared] at drawn
      cases drawn
      exact .inr rfl
    · exact .inl (Deployment.target_bears follows shared (Deployment.manifest_facts drawn).1)
  delete := Deployment.target_bears
  get := Deployment.target_bears
  find := ⟨rfl, rfl⟩
  create _ := ⟨rfl, rfl⟩
  revoke found := ⟨rfl, found _ rfl⟩
  saveCluster follows := follows.uuid
  saveNodeGroup _ := rfl

/-- No operation on a cluster asks about anything that concerns another. -/
theorem Procedure.concerns (p : Procedure) :
    ((p.pass d).run.run c).Ensures ids.Answers (fun q _ _ _ => q.Concerns d ids c)
      (fun _ _ => True) () :=
  Ensures.imp (p.walks (grants_concerns d ids c)) fun _ _ _ => trivial

end

end ClusterLifecycle
