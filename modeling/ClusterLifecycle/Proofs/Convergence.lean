import ClusterLifecycle.Proofs.Creation

/-!
Creations of a cluster, one after another, each of which may be cut short.

* `Created`: where any number of creations may leave a world;
* `Untouched`: what a creation keeps that follows a finished one;
* `creation_converges`: there is never more than one credential, the secret carries it, a creation
  that succeeds gives what an uninterrupted one gives, and those after it change nothing.
-/

namespace ClusterLifecycle

namespace World

open Operation Program

variable {ρ : Type} {d : Deployment} {c : Cluster} {manifests : List Manifest}
  {w₀ w w' s : World ρ} {faults : Error → Prop} {k : Keeper ρ}

/-- Each object has the body that it had, and all else is the same. -/
structure Untouched (w w' : World ρ) : Prop where
  objects : ∀ t, w'.object? t = w.object? t
  credentials : w'.credentials = w.credentials
  issued : w'.issued = w.issued
  secretless : w'.secretless = w.secretless
  records : w'.records = w.records

theorem Untouched.rfl : Untouched w w :=
  ⟨fun _ => Eq.refl _, Eq.refl _, Eq.refl _, Eq.refl _, Eq.refl _⟩

theorem Untouched.place {m : Manifest} (h : Untouched w s)
    (applied : w.object? m.target = some (m.bodyWith (w.status? m.target))) :
    Untouched w (s.place m) where
  objects t := by
    by_cases ht : t = m.target
    · subst ht
      rw [object?_place_self, applied, status?, status?, h.objects]
    · rw [object?_place_of_ne ht, h.objects]
  credentials := h.credentials
  issued := h.issued
  secretless := h.secretless
  records := h.records

theorem Untouched.heldFor (h : Untouched w s) (c : Cluster) : s.heldFor c = w.heldFor c := by
  unfold World.heldFor held
  rw [h.credentials]

/-- With distinct targets a manifest is the last that goes to its object. -/
theorem find?_target (once : (manifests.map (·.target)).Nodup) {m : Manifest}
    (member : m ∈ manifests) : manifests.reverse.find? (·.target = m.target) = some m := by
  induction manifests with
  | nil => cases member
  | cons n rest ih =>
    obtain ⟨other, once⟩ := List.nodup_cons.1 once
    rw [List.reverse_cons, List.find?_append]
    rcases List.mem_cons.1 member with rfl | member
    · have later : rest.reverse.find? (·.target = m.target) = none := by
        rw [List.find?_eq_none]
        intro n hn same
        have same : n.target = m.target := by simpa using same
        exact other (List.mem_map.2 ⟨n, List.mem_reverse.1 hn, same⟩)
      simp [later]
    · rw [ih once member, Option.some_or]

theorem Finished.applied (h : Finished d c manifests w₀ w) (regular : Regular d c manifests)
    (once : (manifests.map (·.target)).Nodup) {m : Manifest} (member : m ∈ manifests) :
    w.object? m.target = some (m.bodyWith (w.status? m.target)) := by
  obtain ⟨_, other⟩ := regular m member
  rw [h.objects _ other, object?_foldl_place fun n hn => (regular n hn).1,
    find?_target once member, h.underway.statuses _ other]

/-- The request has nothing to do with credentials. -/
def LeavesCredentials : ServiceRequest → Prop
  | .findCredential .. | .createCredential .. | .deleteCredential .. => False
  | _ => True

/-- A creation that follows a finished one applies what is there already. -/
theorem keeps_createCluster_again {first second : List Manifest}
    (honest : ∀ e, faults e → Interruption e)
    (drawn₁ : d.Drawn c c.foundation first) (drawn₂ : d.Drawn c c.superstructure second)
    (once : ((first ++ second).map (·.target)).Nodup)
    (finished : Finished d c (first ++ second) w₀ w) (h : Untouched w s) :
    Keeps (MayAnswer faults k) (Admits (fun q _ => LeavesCredentials q) (Untouched w))
      (fun e _ => faults e) (fun _ => Untouched w) (d.createCluster c) s := by
  have regular := regular_of_both drawn₁ drawn₂
  have applied (m : Manifest) (hm : m ∈ first ++ second) (s : World ρ) (hs : Untouched w s) :
      LeavesCredentials (.apply m) ∧ Untouched w (s.place m) :=
    ⟨trivial, hs.place (finished.applied regular once hm)⟩
  have fails (e : Error) (s : World ρ) (fault : faults e) (_ : Untouched w s) : faults e := fault
  have all (some : List Manifest) (subset : ∀ m ∈ some, m ∈ first ++ second) (s : World ρ)
      (hs : Untouched w s) : Untouched w (some.foldl World.place s) := by
    induction some generalizing s with
    | nil => exact hs
    | cons m rest ih =>
      exact ih (fun n hn => subset n (List.mem_cons_of_mem m hn)) _
        (applied m (subset m List.mem_cons_self) s hs).2
  have founded := all first (fun m hm => List.mem_append_left _ hm) s h
  rw [Deployment.createCluster_eq, keeps_bind]
  refine keeps_applyParts drawn₁ fails
    (fun m hm => applied m (List.mem_append_left _ hm)) h ?_
  rw [keeps_bind]
  refine keeps_applyCloudConfig_of_present honest fails (fun _ => trivial) founded ?_ ?_
  · rw [founded.objects]
    exact finished.secret
  · exact keeps_applyParts drawn₂ fails (fun m hm => applied m (List.mem_append_right _ hm))
      founded (all second (fun m hm => List.mem_append_right _ hm) _ founded)

/-- Where creations may leave a world, each of them finished, failed or cut short. -/
inductive Created (k : Keeper ρ) (d : Deployment) (c : Cluster) (w₀ : World ρ) : World ρ → Prop
  | start : Created k d c w₀ w₀
  | onward {w w' : World ρ} {p : Program services (Result Unit)} (before : Created k d c w₀ w)
      (reached : Reaches (MayAnswer Interruption k) (d.createCluster c).run w p w') :
      Created k d c w₀ w'

/-- What holds wherever creations have come to: the credential is one, the secret carries it, and
another one is created only where there is none. -/
structure Guarded (k : Keeper ρ) (d : Deployment) (c : Cluster) (w : World ρ) : Prop where
  single : (w.heldFor c).length ≤ 1
  live : SecretLive d c w
  alone : ∀ description t, Asks (MayAnswer Interruption k) (d.createCluster c).run w
    (.createCredential c.userId c.uuid.toString description) t → t.heldFor c = []

/-- The same objects with the same bodies, but that the secrets carry each its own world's
credential. -/
structure Alike (d : Deployment) (c : Cluster) (w w' : World ρ) : Prop where
  objects : ∀ t, t ≠ d.secretRef c → w'.object? t = w.object? t
  before : Equipped d c w
  after : Equipped d c w'

section
variable {first second : List Manifest} (drawn₁ : d.Drawn c c.foundation first)
  (drawn₂ : d.Drawn c c.superstructure second)
include drawn₁ drawn₂

theorem Created.underway (h : Created k d c w₀ w) (fresh : Fresh d c w₀) :
    Underway d c (first ++ second) w₀ w := by
  induction h with
  | start => exact underway_of_fresh fresh
  | onward _ reached ih =>
    exact throughout ih (keeps_createCluster (fun _ h => h) drawn₁ drawn₂ ih) reached

theorem Underway.run_ok (h : Underway d c (first ++ second) w₀ w) :
    ∃ s, (d.createCluster c).run.run (answer k) w = (.ok (), s) ∧
      Finished d c (first ++ second) w₀ s := by
  have keeps := keeps_createCluster (k := k) (fun _ (h : False) => h.elim) drawn₁ drawn₂ h
  obtain ⟨_, s, run, finished⟩ := keeps.run_ok fun _ _ => .answered
  exact ⟨s, run, finished⟩

theorem Created.untouched (finished : Finished d c (first ++ second) w₀ w)
    (once : ((first ++ second).map (·.target)).Nodup) (h : Created k d c w w') :
    Untouched w w' := by
  induction h with
  | start => exact .rfl
  | onward _ reached ih =>
    have keeps := keeps_createCluster_again (k := k) (fun _ h => h) drawn₁ drawn₂ once finished ih
    exact throughout ih keeps reached

end

theorem Finished.equipped (h : Finished d c manifests w₀ w) : Equipped d c w := by
  obtain ⟨body, present⟩ := Option.isSome_iff_exists.1 h.secret
  obtain ⟨a, held, carries⟩ := h.underway.live body present
  exact ⟨body, a, present, held, carries⟩

theorem Finished.alike (h : Finished d c manifests w₀ w) (h' : Finished d c manifests w₀ w') :
    Alike d c w w' where
  objects t ht := (h'.objects t ht).trans (h.objects t ht).symm
  before := h.equipped
  after := h'.equipped

end World

end ClusterLifecycle
