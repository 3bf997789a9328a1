import ClusterLifecycle.Proofs.Parts

/-!
A cluster's access to the cloud: the credential it is issued and the secret that carries it.

* `Carries`: a secret's body is rendered from a credential that is held;
* `keeps_issue`: issuing under failures never leaves two credentials, and creates only where none is
  held;
* `keeps_applyCloudConfig`: a secret that was there is left alone, and one that was not carries what
  has been issued.
-/

namespace ClusterLifecycle

namespace Deployment

/-- The manifest of the secret with the cloud configuration. -/
def secretManifest (d : Deployment) (c : Cluster) (credential : Credential) : Manifest :=
  Manifest.cloudConfigSecret d.identity (d.secretRef c) c credential

theorem manifest_secret (d : Deployment) (c : Cluster) (credential : Credential) :
    d.manifest .cloudConfigSecret c none (some credential) = .ok (d.secretManifest c credential) :=
  rfl

/-- The body is the cloud configuration with the identity and the secret of the credential. -/
def Carries (d : Deployment) (c : Cluster) (body : Json) (a : ApplicationCredential) : Prop :=
  ∃ secret, a.secret = some secret ∧
    body = (d.secretManifest c { id := a.id, name := a.name, secret }).toJson

end Deployment

namespace World

open Operation

variable {ρ : Type}

/-- The credentials held for a cluster. -/
def heldFor (w : World ρ) (c : Cluster) : List ApplicationCredential :=
  w.held c.userId c.uuid.toString

/-- The secret, where it exists, carries the one credential that is held. -/
def SecretLive (d : Deployment) (c : Cluster) (w : World ρ) : Prop :=
  ∀ body, w.object? (d.secretRef c) = some body →
    ∃ a, w.heldFor c = [a] ∧ d.Carries c body a

/-- The secret is there and carries the one credential that is held. -/
def Equipped (d : Deployment) (c : Cluster) (w : World ρ) : Prop :=
  ∃ body a, w.object? (d.secretRef c) = some body ∧ w.heldFor c = [a] ∧ d.Carries c body a

/-- Objects and records are as before, and credentials still come with their secrets or not. -/
structure SameBut (w w' : World ρ) : Prop where
  objects : w'.objects = w.objects
  records : w'.records = w.records
  secretless : w'.secretless = w.secretless

theorem SameBut.rfl {w : World ρ} : SameBut w w := ⟨Eq.refl _, Eq.refl _, Eq.refl _⟩

theorem SameBut.object? {w w' : World ρ} (h : SameBut w w') (t : ObjectRef) :
    w'.object? t = w.object? t := by
  unfold World.object?
  rw [h.objects]

theorem sameBut_revoke (w : World ρ) (user id : String) : SameBut w (w.revoke user id) :=
  ⟨Eq.refl _, Eq.refl _, Eq.refl _⟩

theorem sameBut_create (w : World ρ) (user name description : String) :
    SameBut w (w.create user name description).2 := ⟨Eq.refl _, Eq.refl _, Eq.refl _⟩

theorem SameBut.trans {w w' w'' : World ρ} (h : SameBut w w') (h' : SameBut w' w'') :
    SameBut w w'' :=
  ⟨h'.objects.trans h.objects, h'.records.trans h.records, h'.secretless.trans h.secretless⟩

variable {faults : Error → Prop} {k : Keeper ρ} {G : ServiceRequest → World ρ → Prop}
  {J : World ρ → Prop} {E : Error → World ρ → Prop}

/-- Looks at an object that may be absent. -/
theorem keeps_isPresent {d : Deployment} {c : Cluster} {kind : ResourceKind} {t : ObjectRef}
    {P : Bool → World ρ → Prop} {w : World ρ} (honest : ∀ e, faults e → Interruption e)
    (fails : ∀ e s, faults e → J s → E e s) (target : d.target kind c none = .ok t)
    (admitted : ∀ t, G (.get t) w) (before : J w) (done : P (w.object? t).isSome w) :
    Keeps (MayAnswer faults k) (Admits G J) E P (d.isPresent kind c) w := by
  unfold Deployment.isPresent
  rw [keeps_bind, keeps_orAbsent]
  refine keeps_fetch (fails_of_honest honest fails _) before admitted ?_
  cases h : w.object? t with
  | none =>
    rw [fetched_of_none target h]
    rw [h] at done
    exact done
  | some body =>
    rw [fetched_of_some target h]
    rw [h] at done
    exact done

/-- The credential is the only one held under the name, and nothing else has changed. -/
structure Issued (w : World ρ) (user name : String) (credential : Credential) (s : World ρ) :
    Prop where
  same : SameBut w s
  held : ∃ a, s.held user name = [a] ∧ a.secret = some credential.secret ∧
    a.id = credential.id ∧ a.name = credential.name

/-- The secret that is applied with what has been issued carries it. -/
theorem Issued.secretLive {d : Deployment} {c : Cluster} {credential : Credential} {w s : World ρ}
    (issued : Issued w c.userId c.uuid.toString credential s)
    (absent : w.object? (d.secretRef c) = none) :
    SecretLive d c (s.place (d.secretManifest c credential)) := by
  obtain ⟨a, held, secret, id, name⟩ := issued.held
  intro body hb
  have applied : (s.place (d.secretManifest c credential)).object? (d.secretRef c) =
      some ((d.secretManifest c credential).bodyWith (s.status? (d.secretRef c))) :=
    object?_place_self s (d.secretManifest c credential)
  have fresh : s.status? (d.secretRef c) = none := by
    rw [status?, issued.same.object?, absent]
    rfl
  rw [applied, fresh] at hb
  refine ⟨a, held, credential.secret, secret, ?_⟩
  rw [id, name]
  exact (Option.some.inj hb).symm

section
variable {user : String} {id : Uuid} {w : World ρ} (fails : ∀ e s, faults e → J s → E e s)
  (withSecrets : w.secretless = false)
  (create : ∀ s description, s.held user id.toString = [] →
    G (.createCredential user id.toString description) s)
  (kept : ∀ s, SameBut w s → (s.held user id.toString).length ≤ 1 → J s)
include fails withSecrets create kept

theorem keeps_createIssued {s : World ρ} (same : SameBut w s)
    (absent : s.held user id.toString = []) :
    Keeps (MayAnswer faults k) (Admits G J) E (Issued w user id.toString)
      (createCredential user id.toString (Credential.description id) >>= fun created =>
        liftM (Credential.ofCreated created)) s := by
  have only := held_create s user id.toString (Credential.description id)
  have same' := same.trans (sameBut_create s user id.toString (Credential.description id))
  have secret : (s.create user id.toString (Credential.description id)).1.secret =
      some ("secret-" ++ toString (s.issued + 1)) := by
    simp only [World.create, same.secretless, withSecrets, Bool.false_eq_true, ↓reduceIte]
  rw [keeps_bind]
  refine keeps_createCredential fails (kept s same (by simp [absent])) (create s _ absent)
    (kept _ same' (by simp [only])) ?_
  rw [keeps_result, Credential.ofCreated, secret]
  exact ⟨same', _, only, secret, rfl, rfl⟩

/-- The credential held so far goes before a new one is created. -/
theorem keeps_issue (honest : ∀ e, faults e → Interruption e)
    (single : (w.held user id.toString).length ≤ 1)
    (find : G (.findCredential user id.toString) w)
    (delete : ∀ a, G (.deleteCredential user a) w) :
    Keeps (MayAnswer faults k) (Admits G J) E (Issued w user id.toString)
      (Credential.issue user id) w := by
  have before : J w := kept w .rfl single
  unfold Credential.issue
  rw [keeps_bind, keeps_orAbsent]
  refine keeps_findCredential (fails_of_honest honest fails _) before find ?_ ?_
  · intro stale h
    have only := held_of_find? single h
    have member : stale ∈ w.held user id.toString := by simp [only]
    have gone := held_revoke only
    have same := sameBut_revoke w user stale.id
    rw [keeps_bind]
    exact keeps_deleteCredential fails before (isHeld_of_held member) (delete _)
      (kept _ same (by simp [gone])) (keeps_createIssued fails withSecrets create kept same gone)
  · intro h
    exact keeps_createIssued fails withSecrets create kept .rfl
      ((held_eq_nil_iff w user id.toString).2 h)

end

section
variable {d : Deployment} {c : Cluster} {P : Unit → World ρ → Prop} {w : World ρ}
  (honest : ∀ e, faults e → Interruption e) (fails : ∀ e s, faults e → J s → E e s)
  (look : ∀ t, G (.get t) w)
include honest fails look

/-- A secret that is there stays. -/
theorem keeps_applyCloudConfig_of_present (before : J w)
    (present : (w.object? (d.secretRef c)).isSome) (done : P () w) :
    Keeps (MayAnswer faults k) (Admits G J) E P (d.applyCloudConfig c) w := by
  unfold Deployment.applyCloudConfig
  rw [keeps_bind]
  apply keeps_isPresent honest fails (d.target_secret c none) look before
  rw [present]
  exact done

/-- A secret that is not there carries what is issued. -/
theorem keeps_applyCloudConfig_of_absent (absent : w.object? (d.secretRef c) = none)
    (withSecrets : w.secretless = false) (single : (w.heldFor c).length ≤ 1)
    (find : G (.findCredential c.userId c.uuid.toString) w)
    (delete : ∀ a, G (.deleteCredential c.userId a) w)
    (create : ∀ s description, s.heldFor c = [] →
      G (.createCredential c.userId c.uuid.toString description) s)
    (apply : ∀ credential s, G (.apply (d.secretManifest c credential)) s)
    (kept : ∀ s, SameBut w s → (s.heldFor c).length ≤ 1 → J s)
    (after : ∀ credential s, Issued w c.userId c.uuid.toString credential s →
      J (s.place (d.secretManifest c credential)) ∧
        P () (s.place (d.secretManifest c credential))) :
    Keeps (MayAnswer faults k) (Admits G J) E P (d.applyCloudConfig c) w := by
  unfold Deployment.applyCloudConfig
  rw [keeps_bind]
  apply keeps_isPresent honest fails (d.target_secret c none) look (kept w .rfl single)
  rw [absent]
  have issue :=
    keeps_issue (k := k) (E := E) fails withSecrets create kept honest single find delete
  apply issue.bind
  intro credential s issued
  obtain ⟨keep, done⟩ := after credential s issued
  obtain ⟨a, ha, _⟩ := issued.held
  have one : (s.heldFor c).length ≤ 1 := Nat.le_of_eq (congrArg List.length ha)
  rw [Deployment.apply_eq (d.manifest_secret c credential)]
  exact keeps_applyObject fails (kept s issued.same one) (apply credential s) keep done

end

end World

end ClusterLifecycle
