import ClusterLifecycle.Proofs.CloudAccess
import ClusterLifecycle.Proofs.Names

/-!
Creating a cluster under interruption.

* `Underway`: what every point of interrupted creations keeps;
* `Finished`: the objects are those of one run, and the cloud configuration is there;
* `keeps_createCluster`: a creation keeps the one, and where it succeeds it leaves the other.
-/

namespace ClusterLifecycle

namespace World

open Operation Program

variable {ρ : Type} {d : Deployment} {c : Cluster} {manifests : List Manifest} {w₀ w s : World ρ}
  {faults : Error → Prop} {k : Keeper ρ}

/-- Neither the secret nor a credential of the cluster is there, and created credentials come with
their secrets. Whatever other objects there are, a creation makes its own of them. -/
structure Fresh (d : Deployment) (c : Cluster) (w : World ρ) : Prop where
  secret : w.object? (d.secretRef c) = none
  credentials : w.heldFor c = []
  secretless : w.secretless = false

/-- A creation is under way: only its objects differ from those at the start, and the credential
and the secret go together. -/
structure Underway (d : Deployment) (c : Cluster) (manifests : List Manifest)
    (w₀ w : World ρ) : Prop where
  elsewhere : ∀ t, t ≠ d.secretRef c → (∀ m ∈ manifests, m.target ≠ t) →
    w.object? t = w₀.object? t
  statuses : ∀ t, t ≠ d.secretRef c → w.status? t = w₀.status? t
  secretless : w.secretless = false
  single : (w.heldFor c).length ≤ 1
  live : SecretLive d c w

theorem underway_of_fresh (fresh : Fresh d c w₀) : Underway d c manifests w₀ w₀ where
  elsewhere _ _ _ := rfl
  statuses _ _ := rfl
  secretless := fresh.secretless
  single := by simp [fresh.credentials]
  live body h := by
    rw [fresh.secret] at h
    cases h

/-- The manifests are applicable, and none of them goes to the secret. -/
def Regular (d : Deployment) (c : Cluster) (manifests : List Manifest) : Prop :=
  ∀ m ∈ manifests, m.Plain ∧ m.target ≠ d.secretRef c

theorem regular_of_drawn {parts : List Part} (drawn : d.Drawn c parts manifests)
    (sound : ∀ p ∈ parts, Deployment.Sound p) : Regular d c manifests := by
  intro m hm
  obtain ⟨p, hp, ok⟩ := drawn.exists_part hm
  obtain ⟨target, plain⟩ := Deployment.manifest_facts ok
  exact ⟨plain, Deployment.target_ne_secret (sound p hp).1 target⟩

theorem regular_of_both {first second : List Manifest} (drawn₁ : d.Drawn c c.foundation first)
    (drawn₂ : d.Drawn c c.superstructure second) : Regular d c (first ++ second) := by
  intro m hm
  rcases List.mem_append.1 hm with hm | hm
  · exact regular_of_drawn drawn₁ (Deployment.sound_foundation c) m hm
  · exact regular_of_drawn drawn₂ (Deployment.sound_superstructure c) m hm

theorem Underway.place {m : Manifest} (h : Underway d c manifests w₀ w)
    (regular : Regular d c manifests)
    (member : m ∈ manifests) : Underway d c manifests w₀ (w.place m) where
  elsewhere t ht other := by
    rw [object?_place_of_ne (other m member).symm]
    exact h.elsewhere t ht other
  statuses t ht := by
    rw [status?_place (regular m member).1]
    exact h.statuses t ht
  secretless := h.secretless
  single := h.single
  live body hb := by
    rw [object?_place_of_ne (regular m member).2.symm] at hb
    exact h.live body hb

theorem Underway.foldl_place {applied : List Manifest} (h : Underway d c manifests w₀ w)
    (regular : Regular d c manifests) (subset : ∀ m ∈ applied, m ∈ manifests) :
    Underway d c manifests w₀ (applied.foldl World.place w) := by
  induction applied generalizing w with
  | nil => exact h
  | cons m rest ih =>
    exact ih (h.place regular (subset m List.mem_cons_self))
      fun n hn => subset n (List.mem_cons_of_mem m hn)

theorem foldl_place_secret (regular : Regular d c manifests) (w : World ρ) :
    (manifests.foldl World.place w).object? (d.secretRef c) = w.object? (d.secretRef c) := by
  induction manifests generalizing w with
  | nil => rfl
  | cons m rest ih =>
    rw [List.foldl_cons, ih fun n hn => regular n (List.mem_cons_of_mem m hn),
      object?_place_of_ne (regular m List.mem_cons_self).2.symm]

/-- While the secret is absent, credentials may come and go. -/
theorem Underway.sameBut (h : Underway d c manifests w₀ w) (same : SameBut w s)
    (absent : w.object? (d.secretRef c) = none) (single : (s.heldFor c).length ≤ 1) :
    Underway d c manifests w₀ s where
  elsewhere t ht other := (same.object? t).trans (h.elsewhere t ht other)
  statuses t ht := by rw [← h.statuses t ht, status?, status?, same.object?]
  secretless := same.secretless.trans h.secretless
  single := single
  live body hb := by
    rw [same.object?, absent] at hb
    cases hb

/-- The secret is applied with what has been issued. -/
theorem Underway.place_secret {credential : Credential} (h : Underway d c manifests w₀ w)
    (absent : w.object? (d.secretRef c) = none)
    (issued : Issued w c.userId c.uuid.toString credential s) :
    Underway d c manifests w₀ (s.place (d.secretManifest c credential)) := by
  obtain ⟨a, held, _⟩ := issued.held
  have before := h.sameBut issued.same absent (Nat.le_of_eq (congrArg List.length held))
  have plain : (d.secretManifest c credential).Plain :=
    (Deployment.manifest_facts (d.manifest_secret c credential)).2
  constructor
  case elsewhere =>
    intro t ht other
    rw [object?_place_of_ne ht]
    exact before.elsewhere t ht other
  case statuses =>
    intro t ht
    rw [status?_place plain]
    exact before.statuses t ht
  case secretless => exact before.secretless
  case single => exact before.single
  case live => exact issued.secretLive absent

/-- A creation has ended well: the secret is there, and all else is as one run would leave it. -/
structure Finished (d : Deployment) (c : Cluster) (manifests : List Manifest)
    (w₀ w : World ρ) : Prop where
  underway : Underway d c manifests w₀ w
  secret : (w.object? (d.secretRef c)).isSome
  objects : ∀ t, t ≠ d.secretRef c → w.object? t = (manifests.foldl World.place w₀).object? t

/-- However far earlier creations have come, applying everything gives what one run gives. -/
theorem Underway.objects_after {first second : List Manifest}
    (h : Underway d c (first ++ second) w₀ w) (after : Underway d c (first ++ second) w₀ s)
    (regular : Regular d c (first ++ second))
    (same : ∀ t, t ≠ d.secretRef c → s.object? t = (first.foldl World.place w).object? t)
    {t : ObjectRef} (ht : t ≠ d.secretRef c) :
    (second.foldl World.place s).object? t =
      ((first ++ second).foldl World.place w₀).object? t := by
  have plain₁ : ∀ m ∈ first, m.Plain := fun m hm => (regular m (List.mem_append_left _ hm)).1
  have plain₂ : ∀ m ∈ second, m.Plain := fun m hm => (regular m (List.mem_append_right _ hm)).1
  have plain : ∀ m ∈ first ++ second, m.Plain := fun m hm => (regular m hm).1
  rw [object?_foldl_place plain₂, object?_foldl_place plain, after.statuses t ht, same t ht,
    object?_foldl_place plain₁, h.statuses t ht, List.reverse_append, List.find?_append]
  cases in₂ : second.reverse.find? (·.target = t) with
  | some m => rfl
  | none =>
    cases in₁ : first.reverse.find? (·.target = t) with
    | some m => rfl
    | none =>
      apply h.elsewhere t ht
      intro m hm
      rcases List.mem_append.1 hm with hm | hm
      · simpa using List.find?_eq_none.1 in₁ m (List.mem_reverse.2 hm)
      · simpa using List.find?_eq_none.1 in₂ m (List.mem_reverse.2 hm)

/-- A credential is created for the cluster only where it holds none. -/
def CreatesAlone (c : Cluster) (q : ServiceRequest) (w : World ρ) : Prop :=
  ∀ description, q = .createCredential c.userId c.uuid.toString description → w.heldFor c = []

/-- From wherever earlier creations have come to, a creation either fails by a failure of its
surroundings or finishes. -/
theorem keeps_createCluster {first second : List Manifest}
    (honest : ∀ e, faults e → Interruption e)
    (drawn₁ : d.Drawn c c.foundation first) (drawn₂ : d.Drawn c c.superstructure second)
    (h : Underway d c (first ++ second) w₀ w) :
    Keeps (MayAnswer faults k) (Admits (CreatesAlone c) (Underway d c (first ++ second) w₀))
      (fun e _ => faults e) (fun _ => Finished d c (first ++ second) w₀) (d.createCluster c) w := by
  have regular := regular_of_both drawn₁ drawn₂
  have fails (e : Error) (s : World ρ) (fault : faults e)
      (_ : Underway d c (first ++ second) w₀ s) : faults e := fault
  have applies (m : Manifest) (s : World ρ) : CreatesAlone c (.apply m) s := nofun
  rw [Deployment.createCluster_eq, keeps_bind]
  refine keeps_applyParts drawn₁ fails (fun m hm s hs => ⟨applies m s,
    hs.place regular (List.mem_append_left _ hm)⟩) h ?_
  have founded : Underway d c (first ++ second) w₀ (first.foldl World.place w) :=
    h.foldl_place regular fun m hm => List.mem_append_left _ hm
  -- What the last stretch needs of the world that it starts in.
  have finish (s : World ρ) (hs : Underway d c (first ++ second) w₀ s)
      (secret : (s.object? (d.secretRef c)).isSome)
      (same : ∀ t, t ≠ d.secretRef c → s.object? t = (first.foldl World.place w).object? t) :
      Keeps (MayAnswer faults k) (Admits (CreatesAlone c) (Underway d c (first ++ second) w₀))
        (fun e _ => faults e) (fun _ => Finished d c (first ++ second) w₀)
        (c.superstructure.forM (d.applyPart c)) s := by
    refine keeps_applyParts drawn₂ fails (fun m hm s hs => ⟨applies m s,
      hs.place regular (List.mem_append_right _ hm)⟩) hs ⟨?_, ?_, ?_⟩
    · exact hs.foldl_place regular fun m hm => List.mem_append_right _ hm
    · rwa [foldl_place_secret fun m hm => regular m (List.mem_append_right _ hm)]
    · intro t ht
      exact h.objects_after hs regular same ht
  rw [keeps_bind]
  cases secret : (first.foldl World.place w).object? (d.secretRef c) with
  | some body =>
    have present : ((first.foldl World.place w).object? (d.secretRef c)).isSome := by simp [secret]
    exact keeps_applyCloudConfig_of_present honest fails nofun founded present
      (finish _ founded present fun _ _ => rfl)
  | none =>
    refine keeps_applyCloudConfig_of_absent honest fails nofun secret founded.secretless
      founded.single nofun nofun (fun s description none description' _ => none) nofun
      (fun s same single => founded.sameBut same secret single) ?_
    intro credential s issued
    have after := founded.place_secret secret issued
    refine ⟨after, finish _ after ?_ ?_⟩
    · exact Option.isSome_iff_exists.2 ⟨_, object?_place_self s (d.secretManifest c credential)⟩
    · intro t ht
      rw [object?_place_of_ne ht]
      exact issued.same.object? t

end World

end ClusterLifecycle
