import ClusterLifecycle.Proofs.Convergence
import ClusterLifecycle.Proofs.Teardown

/-!
Histories of one cluster: creations, deletions and status passes in any order, each cut short
anywhere.

* `History`: what may have happened, and whether the secret has been left without its credential;
* `Coherent`: what the secret and the credential are to one another all along;
* `equipped_iff`: a creation that succeeds leaves a working secret if and only if no teardown before
  it has stopped between the credential and the secret.
-/

namespace ClusterLifecycle

namespace World

open Operation Program

variable {ρ : Type} {d : Deployment} {c c' : Cluster} {w₀ w w' s : World ρ} {k : Keeper ρ}
  {torn : Bool}

/-- Whether the secret stands without its credential after a pass: it is still there, and the
credential had gone or has gone now. -/
def tornAfter (d : Deployment) (c : Cluster) (w w' : World ρ) (torn : Bool) : Bool :=
  (w'.object? (d.secretRef c)).isSome &&
    (torn || !(w.heldFor c).isEmpty && (w'.heldFor c).isEmpty)

/-- What may have happened to a cluster. Each operation is given some record of it, and may be cut
short at any point. What others do leaves its access to the cloud alone. The flag tells whether the
secret has been left without its credential. -/
inductive History (k : Keeper ρ) (d : Deployment) (c : Cluster) (w₀ : World ρ) :
    Bool → World ρ → Prop
  | start : History k d c w₀ false w₀
  | create {torn : Bool} {c' : Cluster} {w w' : World ρ} {p : Program services (Result Unit)}
      (before : History k d c w₀ torn w) (follows : c.Follows c')
      (reached : Reaches (MayAnswer Interruption k) (d.createCluster c').run w p w') :
      History k d c w₀ torn w'
  | delete {torn : Bool} {c' : Cluster} {w w' : World ρ} {p : Program services (Result Unit)}
      (before : History k d c w₀ torn w) (follows : c.Follows c')
      (reached : Reaches (MayAnswer Interruption k) (d.deleteCluster c').run w p w') :
      History k d c w₀ torn w'
  | pass {torn : Bool} {c' : Cluster} {w w' : World ρ}
      {p : Program services (Result Unit × Cluster)}
      (before : History k d c w₀ torn w) (follows : c.Follows c')
      (reached : Reaches (MayAnswer Interruption k) (d.updateClusterStatus.run.run c') w p w') :
      History k d c w₀ (tornAfter d c w w' torn) w'
  | others {torn : Bool} {w w' : World ρ} (before : History k d c w₀ torn w)
      (same : SameAccess d c w w') : History k d c w₀ torn w'

/-- The secret carries the credential that is held, or it is there and none is held. -/
structure Coherent (torn : Bool) (d : Deployment) (c : Cluster) (w : World ρ) : Prop where
  secretless : w.secretless = false
  single : (w.heldFor c).length ≤ 1
  whole : torn = false → SecretLive d c w
  dead : torn = true → (w.object? (d.secretRef c)).isSome ∧ w.heldFor c = []

theorem coherent_of_fresh (fresh : Fresh d c w) : Coherent false d c w where
  secretless := fresh.secretless
  single := by simp [fresh.credentials]
  whole _ body h := by
    rw [fresh.secret] at h
    cases h
  dead := nofun

theorem Coherent.sameAccess (h : Coherent torn d c w) (same : SameAccess d c w s) :
    Coherent torn d c s where
  secretless := same.secretless.trans h.secretless
  single := by
    rw [same.credential]
    exact h.single
  whole whole body hb := by
    rw [same.credential]
    rw [same.secret] at hb
    exact h.whole whole body hb
  dead dead := by
    rw [same.credential, same.secret]
    exact h.dead dead

theorem Coherent.shrunk (h : Coherent torn d c w) (shrunk : Shrunk d c w s) :
    Coherent (tornAfter d c w s torn) d c s where
  secretless := shrunk.secretless.trans h.secretless
  single := by
    rcases shrunk.credential with same | gone
    · rw [same]
      exact h.single
    · simp [gone]
  whole whole body hb := by
    have before : w.object? (d.secretRef c) = some body := by
      rcases shrunk.secret with same | ⟨gone, _⟩
      · rw [← same, hb]
      · rw [gone] at hb
        cases hb
    cases torn with
    | true => simp [tornAfter, hb] at whole
    | false =>
      obtain ⟨a, held, carries⟩ := h.whole rfl body before
      rcases shrunk.credential with same | gone
      · exact ⟨a, same.trans held, carries⟩
      · simp [tornAfter, hb, held, gone] at whole
  dead dead := by
    simp only [tornAfter, Bool.and_eq_true, Bool.or_eq_true] at dead
    obtain ⟨there, was | ⟨_, gone⟩⟩ := dead
    · refine ⟨there, ?_⟩
      rcases shrunk.credential with same | gone
      · exact same.trans (h.dead was).2
      · exact gone
    · exact ⟨there, List.isEmpty_iff.1 gone⟩

theorem Coherent.place {m : Manifest} (h : Coherent torn d c w) (other : m.target ≠ d.secretRef c) :
    Coherent torn d c (w.place m) :=
  h.sameAccess ⟨rfl, rfl, object?_place_of_ne other.symm w⟩

section
variable {E : Error → World ρ → Prop} {J : World ρ → Prop} (fails : ∀ e s, J s → E e s)
include fails

/-- Applying parts, of which some may have no manifest. -/
theorem keeps_tryParts {parts : List Part} (sound : ∀ p ∈ parts, Deployment.Sound p)
    (round : ∀ m s, m.target ≠ d.secretRef c → J s → J (s.place m)) (h : J s) :
    Keeps (MayAnswer Interruption k) (Admits Any J) E (fun _ => J)
      (parts.forM (d.applyPart c)) s := by
  refine keeps_forM _ _ ?_ h
  intro p hp s h
  unfold Deployment.applyPart Deployment.apply
  rw [keeps_bind, keeps_result]
  cases hm : d.manifest p.1 c p.2 none with
  | error e => exact fails e s h
  | ok m =>
    have other := Deployment.target_ne_secret (sound p hp).1 (Deployment.manifest_facts hm).1
    have after := round m s other h
    exact keeps_applyObject (fun e s _ hs => fails e s hs) h trivial after after

end

/-- A creation with any record of the cluster: what it finds torn it leaves torn, and where it
succeeds the secret is there. -/
theorem keeps_anyCreation (h : Coherent torn d c w) :
    Keeps (MayAnswer Interruption k) (Admits Any (Coherent torn d c)) (fun _ => Coherent torn d c)
      (fun _ s => Coherent torn d c s ∧ (s.object? (d.secretRef c)).isSome)
      (d.createCluster c) w := by
  have fails (e : Error) (s : World ρ) (hs : Coherent torn d c s) : Coherent torn d c s := hs
  rw [Deployment.createCluster_eq]
  refine (keeps_tryParts fails (Deployment.sound_foundation c) (fun m s other h => h.place other)
    h).bind ?_
  intro _ s h
  -- Whether the secret was there or not, it is there when the rest is applied.
  refine Keeps.bind (B := fun _ s => Coherent torn d c s ∧ (s.object? (d.secretRef c)).isSome) ?_ ?_
  · cases there : s.object? (d.secretRef c) with
    | some body =>
      have present : (s.object? (d.secretRef c)).isSome := by simp [there]
      exact keeps_applyCloudConfig_of_present (fun _ h => h) (fun e s _ hs => fails e s hs)
        (fun _ => trivial) h present ⟨h, present⟩
    | none =>
      have whole : torn = false := by
        cases torn with
        | true => simpa [there] using (h.dead rfl).1
        | false => rfl
      subst whole
      refine keeps_applyCloudConfig_of_absent (fun _ h => h) (fun e s _ hs => fails e s hs)
        (fun _ => trivial) there h.secretless h.single trivial (fun _ => trivial)
        (fun _ _ _ => trivial) (fun _ _ => trivial) ?_ ?_
      · intro s' same single
        refine ⟨same.secretless.trans h.secretless, single, fun _ body hb => ?_, nofun⟩
        rw [same.object?, there] at hb
        cases hb
      · intro credential s' issued
        obtain ⟨a, held, _⟩ := issued.held
        have after : Coherent false d c (s'.place (d.secretManifest c credential)) :=
          ⟨issued.same.secretless.trans h.secretless, Nat.le_of_eq (congrArg List.length held),
            fun _ => issued.secretLive there, nofun⟩
        have present := object?_place_self s' (d.secretManifest c credential)
        exact ⟨after, after, Option.isSome_iff_exists.2 ⟨_, present⟩⟩
  · intro _ s h
    refine (keeps_tryParts (J := fun s => Coherent torn d c s ∧ (s.object? (d.secretRef c)).isSome)
      (fun _ _ hs => hs.1) (Deployment.sound_superstructure c) ?_ h).mono
      (fun _ _ _ _ h => ⟨h.1, h.2.1⟩) (fun _ _ h => h) fun _ _ h => h
    intro m s other hs
    refine ⟨hs.1.place other, ?_⟩
    rw [object?_place_of_ne other.symm]
    exact hs.2

section
variable (later : c.Follows c')
include later

theorem Coherent.of_follows (h : Coherent torn d c w) : Coherent torn d c' w where
  secretless := h.secretless
  single := by
    rw [later.heldFor]
    exact h.single
  whole whole body hb := by
    rw [later.secretRef] at hb
    obtain ⟨a, held, carries⟩ := h.whole whole body hb
    exact ⟨a, (later.heldFor w).trans held, (later.carries d body a).2 carries⟩
  dead dead := by
    rw [later.secretRef, later.heldFor]
    exact h.dead dead

theorem tornAfter_follows (w w' : World ρ) (torn : Bool) :
    tornAfter d c' w w' torn = tornAfter d c w w' torn := by
  simp only [tornAfter, later.secretRef, later.heldFor]

theorem sameAccess_follows (h : SameAccess d c' w w') : SameAccess d c w w' := by
  obtain ⟨secretless, credential, secret⟩ := h
  rw [later.heldFor, later.heldFor] at credential
  rw [later.secretRef] at secret
  exact ⟨secretless, credential, secret⟩

end

theorem History.coherent (fresh : Fresh d c w₀) (h : History k d c w₀ torn w) :
    Coherent torn d c w := by
  induction h with
  | start => exact coherent_of_fresh fresh
  | create _ follows reached ih =>
    have before := ih.of_follows follows
    exact (throughout before (keeps_anyCreation before) reached).of_follows follows.symm
  | delete _ follows reached ih =>
    have kept := throughout .rfl (keeps_deleteCluster (fun _ _ _ hs => hs) .rfl) reached
    exact ih.sameAccess (sameAccess_follows follows kept)
  | pass _ follows reached ih =>
    have before := ih.of_follows follows
    have kept := throughout SameAccess.rfl.shrunk (keeps_updateClusterStatus before.single) reached
    rw [← tornAfter_follows follows]
    exact (before.shrunk kept).of_follows follows.symm
  | others _ same ih => exact ih.sameAccess same

/-- Torn means that the secret is there and no credential is. -/
theorem Coherent.torn_iff (h : Coherent torn d c w) :
    torn = true ↔ (w.object? (d.secretRef c)).isSome ∧ w.heldFor c = [] := by
  refine ⟨h.dead, ?_⟩
  rintro ⟨there, gone⟩
  cases torn with
  | true => rfl
  | false =>
    obtain ⟨body, hb⟩ := Option.isSome_iff_exists.1 there
    obtain ⟨a, held, _⟩ := h.whole rfl body hb
    rw [gone] at held
    cases held

/-- A creation that succeeds leaves a secret with the credential that is held if and only if what
came before has not left the secret without its credential; and that shows in the world that the
creation starts in. -/
theorem equipped_iff (fresh : Fresh d c w₀) (history : History k d c w₀ torn w)
    (follows : c.Follows c')
    (reached : Reaches (MayAnswer Interruption k) (d.createCluster c').run w (done (.ok ())) w') :
    (Equipped d c w' ↔ torn = false) ∧
      (torn = true ↔ (w.object? (d.secretRef c)).isSome ∧ w.heldFor c = []) := by
  have before := history.coherent fresh
  have keeps := keeps_anyCreation (k := k) (before.of_follows follows)
  obtain ⟨after, there⟩ := keeps.at_ok reached
  have after := after.of_follows follows.symm
  rw [follows.secretRef] at there
  refine ⟨⟨?_, ?_⟩, before.torn_iff⟩
  · rintro ⟨body, a, hb, held, _⟩
    cases torn with
    | false => rfl
    | true =>
      rw [(after.dead rfl).2] at held
      cases held
  · intro whole
    obtain ⟨body, hb⟩ := Option.isSome_iff_exists.1 there
    obtain ⟨a, held, carries⟩ := after.whole whole body hb
    exact ⟨body, a, hb, held, carries⟩

/-- Once the cluster itself is gone, a teardown whose deletion of the secret fails leaves the secret
without its credential. -/
theorem teardown_tears (equipped : Equipped d c w) (gone : w.object? (d.clusterRef c) = none)
    (deleting : c.status = .deleteInProgress) {e : Error} (fault : Interruption e) :
    ∃ w', Reaches (MayAnswer Interruption k) (d.updateClusterStatus.run.run c) w
        (done (.error e, c)) w' ∧ tornAfter d c w w' torn = true := by
  obtain ⟨body, a, there, held, _⟩ := equipped
  have acts (q : services.Request) (s : World ρ) :
      MayAnswer Interruption k q s (s.answer k q).1 (s.answer k q).2 := .answered
  -- The look at the cluster and the revocation go well.
  have looked : Keeps (MayAnswer (fun _ => False) k) (Admits Any (fun s => s = w))
      (fun _ _ => False) (fun present s => present = false ∧ s = w) (d.isPresent .cluster c) w :=
    keeps_isPresent (fun _ h => h.elim) (fun _ _ h _ => h) (d.target_cluster c none)
      (fun _ => trivial) rfl (by simp [gone])
  obtain ⟨_, _, look, rfl, same⟩ := looked.run_ok fun _ _ => .answered
  rw [same] at look
  have single : (w.heldFor c).length ≤ 1 := by simp [held]
  have revoked := keeps_revoke (k := k) (E := fun _ _ => False) (fun _ (h : False) => h.elim)
    (fun _ _ h _ => h) (SameAccess.rfl (d := d)).shrunk single
  obtain ⟨_, s, revoke, _, none, objects⟩ := revoked.run_ok fun _ _ => .answered
  have looks := reaches_run acts (d.isPresent .cluster c).run w
  have revokes := reaches_run acts (Credential.revoke c.userId c.uuid).run w
  rw [look] at looks
  rw [revoke] at revokes
  refine ⟨s, ?_, ?_⟩
  · unfold Deployment.updateClusterStatus
    refine Pass.reaches_ok (.here _ _) ?_
    rw [deleting]
    change Reaches _ (d.teardownPass.run.run c) _ _ _
    unfold Deployment.teardownPass
    refine Pass.reaches_ok (.here _ _) (Pass.reaches_ok (Pass.reaches_lift looks) ?_)
    refine Pass.reaches_ok (Pass.reaches_lift revokes) (Pass.reaches_error ?_)
    exact Pass.reaches_error (Pass.reaches_lift (.on (.refused e fault) (.here _ _)))
  · have still : s.object? (d.secretRef c) = some body := by
      rw [← there]
      unfold World.object?
      rw [objects]
    simp [tornAfter, still, held, none]

/-- With the secret there, a creation that nothing interrupts succeeds, whatever the secret is
worth. -/
theorem createCluster_run_ok (complete : c.Complete)
    (present : (w.object? (d.secretRef c)).isSome) :
    ∃ w', (d.createCluster c).run.run (answer k) w = (.ok (), w') := by
  obtain ⟨first, drawn₁⟩ := Deployment.drawn_ok d complete (Deployment.sound_foundation c)
  obtain ⟨second, drawn₂⟩ := Deployment.drawn_ok d complete (Deployment.sound_superstructure c)
  let J (s : World ρ) : Prop := (s.object? (d.secretRef c)).isSome
  have placed {m : Manifest} (hm : m ∈ first ++ second) (s : World ρ) (hs : J s) :
      Any (.apply m) s ∧ J (s.place m) := by
    refine ⟨trivial, ?_⟩
    change ((s.place m).object? (d.secretRef c)).isSome
    rwa [object?_place_of_ne (regular_of_both drawn₁ drawn₂ m hm).2.symm]
  have founded : J (first.foldl World.place w) := by
    change ((first.foldl World.place w).object? (d.secretRef c)).isSome
    rwa [foldl_place_secret (regular_of_drawn drawn₁ (Deployment.sound_foundation c))]
  have fails (e : Error) (s : World ρ) (fault : False) (_ : J s) : False := fault
  have keeps : Keeps (MayAnswer (fun _ => False) k) (Admits Any J) (fun _ _ => False)
      (fun _ _ => True) (d.createCluster c) w := by
    rw [Deployment.createCluster_eq, keeps_bind]
    refine keeps_applyParts drawn₁ fails (fun m hm => placed (List.mem_append_left _ hm)) present ?_
    rw [keeps_bind]
    refine keeps_applyCloudConfig_of_present (fun _ h => h.elim) fails (fun _ => trivial) founded
      founded ?_
    exact keeps_applyParts drawn₂ fails (fun m hm => placed (List.mem_append_right _ hm)) founded
      trivial
  obtain ⟨_, w', run, _⟩ := keeps.run_ok fun _ _ => .answered
  exact ⟨w', run⟩

theorem reaches_of_run {α : Type} {op : Operation α} {r : Result α}
    (run : op.run.run (answer k) w = (r, w')) :
    Reaches (MayAnswer Interruption k) op.run w (done r) w' := by
  have reached := reaches_run (R := MayAnswer Interruption k) (fun _ _ => .answered) op.run w
  rwa [run] at reached

/-- A secret without its credential comes about: the cluster is created and deleted, and its
teardown stops between the two. -/
theorem torn_history (complete : c.Complete) (fresh : Fresh d c w₀) :
    ∃ w, History k d c w₀ true w ∧ (w.object? (d.secretRef c)).isSome := by
  obtain ⟨first, drawn₁⟩ := Deployment.drawn_ok d complete (Deployment.sound_foundation c)
  obtain ⟨second, drawn₂⟩ := Deployment.drawn_ok d complete (Deployment.sound_superstructure c)
  obtain ⟨w₁, create, finished⟩ := (underway_of_fresh fresh).run_ok (k := k) drawn₁ drawn₂
  obtain ⟨body, a, there, held, carries⟩ := finished.equipped
  have deletes := keeps_deleteCluster (k := k) (fun _ _ (h : False) _ => h)
    (SameAccess.rfl (d := d) (c := c) (w := w₁))
  obtain ⟨_, w₂, delete, same, gone⟩ := deletes.run_ok fun _ _ => .answered
  have equipped : Equipped d c w₂ :=
    ⟨body, a, same.secret.trans there, same.credential.trans held, carries⟩
  let deleting : Cluster := { c with status := .deleteInProgress }
  have follows : c.Follows deleting := ⟨rfl, rfl⟩
  have interrupted : Interruption (.config "") := rfl
  obtain ⟨w₃, reached, torn⟩ : ∃ w₃, Reaches (MayAnswer Interruption k)
      (d.updateClusterStatus.run.run deleting) w₂ (done (.error (.config ""), deleting)) w₃ ∧
      tornAfter d deleting w₂ w₃ false = true :=
    teardown_tears (c := deleting) equipped gone rfl interrupted
  have created : History k d c w₀ false w₁ :=
    .create .start .rfl (reaches_of_run create)
  have history := (created.delete .rfl (reaches_of_run delete)).pass follows reached
  rw [← tornAfter_follows follows, torn] at history
  exact ⟨w₃, history, ((history.coherent fresh).dead rfl).1⟩

theorem equipped_iff_sample :
    let d := Deployment.sample
    let c := Cluster.completeSample .nil
    let k := Keeper.memory
    let w₀ : World Records := { records := [] }
    Fresh d c w₀ ∧ c.Follows c ∧ ∃ w w', History k d c w₀ true w ∧
      Reaches (MayAnswer Interruption k) (d.createCluster c).run w (done (.ok ())) w' ∧
      ¬Equipped d c w' := by
  intro d c k w₀
  have fresh : Fresh d c w₀ := ⟨rfl, rfl, rfl⟩
  have complete : c.Complete := Cluster.complete_completeSample .nil
  obtain ⟨w, history, present⟩ := torn_history (k := k) complete fresh
  obtain ⟨w', run⟩ := createCluster_run_ok (k := k) complete present
  have reached := reaches_of_run run
  refine ⟨fresh, .rfl, w, w', history, reached, ?_⟩
  intro equipped
  have whole := (equipped_iff fresh history .rfl reached).1.1 equipped
  cases whole

end World

end ClusterLifecycle
