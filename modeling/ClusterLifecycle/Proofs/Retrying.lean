import ClusterLifecycle.Proofs.Growth
import ClusterLifecycle.Proofs.Rosters
import Mathlib.Data.List.Nodup

/-!
Adding a group once more after it has failed.

* `Keeper.Straddles`: the stored record is as it was before a group was added, or lists the group;
* `Errand.upholds_adding`: a command that adds a group leaves it so wherever it ends;
* `World.attending`: a console in front of a world in which nothing fails, and what errands do
  there;
* `World.retry_recovers_iff`: the command repairs what it has left only where it has not been
  recorded.
-/

namespace ClusterLifecycle

open Program

theorem Cluster.nodeGroup?_isSome {c : Cluster} {name : String} :
    (c.nodeGroup? name).isSome ↔ ∃ h ∈ c.nodeGroups, h.name = name := by
  simp [nodeGroup?, List.find?_isSome]

namespace Keeper

variable {ρ : Type} {k : Keeper ρ} {id : Uuid} {c : Cluster} {g : NodeGroup} {records : ρ}

/-- The stored record is as it was before the group was added, or it is one with the group. -/
def Straddles (k : Keeper ρ) (id : Uuid) (c : Cluster) (g : NodeGroup) (records : ρ) : Prop :=
  k.load id records = .ok c ∨
    ∃ x, k.load id records = .ok x ∧ x.undated = (c.declaring g).undated

/-- A save of the record with the group takes effect or leaves the record as it was. -/
theorem straddles_save (faithful : k.Faithful id) (mine : c.uuid = id)
    (stored : k.load id records = .ok c) (g : NodeGroup) :
    k.Straddles id c g (k.save (c.declaring g) records).2 := by
  cases result : (k.save (c.declaring g) records).1 with
  | ok u =>
    obtain ⟨x, loaded, same⟩ := faithful.saved (c.declaring g) records mine result
    exact .inr ⟨x, mine ▸ loaded, same⟩
  | error e => exact .inl ((faithful.spared (c.declaring g) records e mine result c).2 stored)

end Keeper

namespace World

variable {ρ : Type} {k : Keeper ρ} {w w' : World ρ}

/-- Only saves touch the records. -/
theorem records_amid {q : ServiceRequest} {a : q.Answer} (elsewhere : ¬q.Saves)
    (answered : Amid k q w a w') : w'.records = w.records := by
  obtain ⟨w₀, same, -, served⟩ := answered
  have stays : (w₀.answer k q).2.records = w₀.records := by
    cases q with
    | saveCluster | saveNodeGroup => exact absurd trivial elsewhere
    | deleteCredential user id =>
      rw [answer]
      split <;> rfl
    | _ => rfl
  cases served with
  | answered | lost => exact stays.trans same
  | refused => exact same

end World

namespace Errand

open World

variable {ρ : Type} {k : Keeper ρ} {d : Deployment} {id : Uuid} {c : Cluster} {g : NodeGroup}
  {w : World ρ}

section
variable (faithful : k.Faithful id) (mine : c.uuid = id) (stored : k.load id w.records = .ok c)
include faithful mine stored

theorem keeps_saveAdded :
    (Operation.saveCluster (c.declaring g)).Keeps (Amid k)
      (fun _ _ _ w' => k.Straddles id c g w'.records) (fun _ w' => k.Straddles id c g w'.records)
      (fun _ w' => k.Straddles id c g w'.records) w := by
  rintro (a : ServiceRequest.Answer (.saveCluster (c.declaring g))) w' ⟨w₀, same, -, served⟩
  rw [← same] at stored
  have after := Keeper.straddles_save faithful mine stored g
  have ends (r : Result Unit) (w : World ρ) (now : k.Straddles id c g w.records) :
      Operation.Ends (fun _ w' => k.Straddles id c g w'.records)
        (fun (_ : Unit) w' => k.Straddles id c g w'.records) r w := by
    cases r <;> exact now
  cases served with
  | answered => exact ⟨after, ends _ _ after⟩
  | refused => exact ⟨.inl stored, .inl stored⟩
  | lost => exact ⟨after, after⟩

theorem upholds_addition :
    Upholds (Faces k) (fun w' => k.Straddles id c g w'.records) (fun _ _ => True)
      (pass (d.addNodeGroup g) c) w := by
  apply upholds_pass
  rw [Deployment.addNodeGroup_eq, Pass.keeps_bind, Pass.keeps_get]
  split
  next => exact .inl stored
  next =>
    rw [Pass.keeps_bind, Pass.keeps_set, Pass.keeps_bind, Pass.keeps_lift]
    refine (keeps_saveAdded faithful mine stored).imp_ok fun _ w now => ?_
    have applies : (d.createNodeGroup (c.declaring g) g).Only (fun q => ¬q.Saves)
        Operation.Anything := Deployment.only_provision d _ (fun _ saves => saves) g true
    rw [Pass.keeps_lift]
    have keeps (q : ServiceRequest) (w : World ρ) (a : q.Answer) (w' : World ρ)
        (elsewhere : ¬q.Saves) (now : k.Straddles id c g w.records)
        (answered : Amid k q w a w') :
        k.Straddles id c g w'.records ∧ k.Straddles id c g w'.records := by
      rw [records_amid elsewhere answered]
      exact ⟨now, now⟩
    exact (applies.keeps keeps now).imp_ok fun _ _ ends => ⟨trivial, ends.2⟩

/-- Wherever a command that adds a group ends, the stored record is as it was or has the group. -/
theorem upholds_adding (new : ∀ h ∈ c.nodeGroups, h.name ≠ g.name) :
    Upholds (Faces k) (fun w' => k.Straddles id c g w'.records) (fun _ _ => True)
      (createGroup d id g) w := by
  have absent : ¬(c.nodeGroup? g.name).isSome := by
    rw [Cluster.nodeGroup?_isSome]
    rintro ⟨h, member, same⟩
    exact new h member same
  unfold createGroup
  refine Upholds.bind (B := fun x w' => x = c ∧ k.load id w'.records = .ok c) ?_ ?_
  · apply upholds_ofResult
    rintro (a : Result Cluster) w' ⟨records, rfl, tended⟩
    cases tended with
    | unloaded id e =>
      refine ⟨.inl stored, .inl stored, ?_⟩
      rintro c ⟨⟩
    | loaded =>
      refine ⟨.inl stored, .inl stored, fun x loaded => ?_⟩
      cases stored.symm.trans loaded
      exact ⟨rfl, stored⟩
  · rintro _ w - ⟨rfl, stored⟩
    rw [if_neg absent]
    apply (upholds_addition faithful mine stored).bind
    intro c' w now _
    apply (upholds_say faces_idle _ now).bind
    intro _ w now _
    exact upholds_say faces_idle _ now

end

end Errand

namespace World

open Operation

variable {ρ : Type} {k : Keeper ρ} {d : Deployment} {id : Uuid} {c : Cluster} {g : NodeGroup}
  {w w' : World ρ}

/-- The console in front of a world in which nothing fails. -/
def attending (k : Keeper ρ) (q : ConsoleRequest) (w : World ρ) : q.Answer × World ρ :=
  match q with
  | .service q => w.answer k q
  | .load id => (k.load id w.records, w)
  | .forget id =>
    let (a, records) := k.remove id w.records
    (a, { w with records })
  | .say _ | .sleep _ => ((), w)
  | .time => ((0 : Nat), w)

/-- What becomes of an errand there. -/
abbrev attend {α : Type} (k : Keeper ρ) (errand : Errand α) (w : World ρ) :
    Except Failure α × World ρ :=
  errand.run.run (attending k) w

section
variable {α β : Type}

theorem run_service (p : Program services α) (w : World ρ) :
    (Errand.service p).run (attending k) w = p.run (answer k) w := by
  induction p generalizing w with
  | done a => rfl
  | ask q next ih => exact ih _ _

theorem attend_bind (errand : Errand β) (f : β → Errand α) (w : World ρ) :
    attend k (errand >>= f) w = match attend k errand w with
      | (.ok b, w') => attend k (f b) w'
      | (.error e, w') => (.error e, w') := by
  unfold attend
  rw [ExceptT.run_bind, Program.bind_eq, Program.run_bind]
  generalize errand.run.run (attending k) w = ran
  obtain ⟨r, w'⟩ := ran
  cases r <;> rfl

theorem attend_load (id : Uuid) (w : World ρ) :
    attend k (Errand.load id) w = ((k.load id w.records).mapError .error, w) := rfl

theorem attend_pass (pass : Pass Unit) (c : Cluster) (w : World ρ) :
    attend k (Errand.pass pass c) w = match (pass.run.run c).run (answer k) w with
      | ((.ok (), c'), w') => (.ok c', w')
      | ((.error e, _), w') => (.error (.error e), w') := by
  change ((Errand.service (pass.run.run c)).bind _).run (attending k) w = _
  rw [Program.run_bind, run_service]
  generalize (pass.run.run c).run (answer k) w = ran
  obtain ⟨⟨r, c'⟩, w'⟩ := ran
  cases r <;> rfl

end

/-- The parts of a group can be applied, whatever the record. -/
theorem drawn_group (d : Deployment) (c : Cluster) (g : NodeGroup) :
    ∃ ms, d.Drawn c (g.parts true) ms := by
  rw [NodeGroup.parts]
  cases g.role with
  | master => exact ⟨[_, _], rfl⟩
  | worker => exact ⟨[_, _, _], rfl⟩

/-- Where the save succeeds, a group is recorded and its parts are applied. -/
theorem run_addNodeGroup (living : c.status.action ≠ .delete)
    (saves : (k.save (c.declaring g) w.records).1 = .ok ())
    {ms : List Manifest} (drawn : d.Drawn (c.declaring g) (g.parts true) ms) :
    ((d.addNodeGroup g).run.run c).run (answer k) w = ((.ok (), c.declaring g),
      ms.foldl place { w with records := (k.save (c.declaring g) w.records).2 }) := by
  rw [Deployment.addNodeGroup_eq]
  change ((if c.status.action = .delete then
      throw (.unsupported "create_nodegroup on a deleted cluster")
    else do
      set (c.declaring g)
      saveCluster (c.declaring g)
      d.createNodeGroup (c.declaring g) g : Pass Unit).run.run c).run (answer k) w = _
  rw [if_neg living]
  change (((liftM (saveCluster (c.declaring g)) : Pass Unit) >>= fun _ =>
      liftM (d.createNodeGroup (c.declaring g) g)).run.run (c.declaring g)).run (answer k) w = _
  refine run_lift_bind_ok.2 ⟨(), _, Prod.ext saves rfl, ?_⟩
  rw [← bind_pure (liftM (d.createNodeGroup (c.declaring g) g) : Pass Unit)]
  refine run_lift_bind_ok.2 ⟨(), _, ?_, rfl⟩
  rw [Deployment.createNodeGroup, Deployment.provision_eq]
  exact run_applyParts_ok.2 ⟨ms, drawn, rfl⟩

/-- What is applied for parts of one group has its body from the manifest of the part. -/
theorem object?_groupParts {ms : List Manifest} (drawn : d.Drawn c (g.parts true) ms)
    (w : World ρ) {p : Part} (member : p ∈ g.parts true) :
    ∃ m, d.manifest p.1 c p.2 none = .ok m ∧
      (ms.foldl place w).object? m.target = some (m.bodyWith (w.status? m.target)) := by
  obtain ⟨m, inside, manifest⟩ := drawn.exists_manifest member
  have once : (ms.map (·.target)).Nodup :=
    Deployment.targets_nodup drawn (Deployment.tidy_groupParts g true)
      (Deployment.keys_groupParts_nodup g true)
  have last : Manifest.last? ms m.target = some m :=
    Manifest.last?_of_unique inside fun n hn same => List.inj_on_of_nodup_map once hn inside same
  refine ⟨m, manifest, ?_⟩
  unfold Manifest.last? at last
  rw [object?_foldl_place drawn.plain, last]

/-- A command that adds a group in a world in which nothing fails: it refuses a name in use. -/
theorem attend_createGroup_listed {x : Cluster} (stored : k.load id w.records = .ok x)
    (listed : ∃ h ∈ x.nodeGroups, h.name = g.name) :
    attend k (Errand.createGroup d id g) w = (.error (.groupExists g.name x.name), w) := by
  rw [Errand.createGroup, attend_bind, attend_load, stored]
  dsimp only [Except.mapError]
  rw [if_pos (Cluster.nodeGroup?_isSome.2 listed)]
  rfl

/-- Otherwise it records the group and applies its parts. -/
theorem attend_createGroup_new (stored : k.load id w.records = .ok c)
    (living : c.status.action ≠ .delete) (new : ∀ h ∈ c.nodeGroups, h.name ≠ g.name)
    (saves : (k.save (c.declaring g) w.records).1 = .ok ()) {ms : List Manifest}
    (drawn : d.Drawn (c.declaring g) (g.parts true) ms) :
    attend k (Errand.createGroup d id g) w =
      (.ok (), ms.foldl place { w with records := (k.save (c.declaring g) w.records).2 }) := by
  have absent : ¬(c.nodeGroup? g.name).isSome := by
    rw [Cluster.nodeGroup?_isSome]
    rintro ⟨h, member, same⟩
    exact new h member same
  rw [Errand.createGroup, attend_bind, attend_load, stored]
  dsimp only [Except.mapError]
  rw [if_neg absent, attend_bind, attend_pass, run_addNodeGroup living saves drawn]
  rfl

/-- Where nothing fails any more, a command that has failed to add a group repairs what it has left
if the stored record does not list the group yet, and then lists it once and applies its parts.
Where the record does list it the command refuses and changes nothing, whatever has been applied. -/
theorem retry_recovers_iff {p : Program console (Except Failure Unit)} (faithful : k.Faithful id)
    (mine : c.uuid = id) (stored : k.load id w.records = .ok c) (living : c.status.action ≠ .delete)
    (new : ∀ h ∈ c.nodeGroups, h.name ≠ g.name)
    (cut : Reaches (Faces k) (Errand.createGroup d id g).run w p w')
    (saves : (k.save (c.declaring g) w'.records).1 = .ok ()) :
    k.Straddles id c g w'.records ∧
    ((attend k (Errand.createGroup d id g) w').1 = .ok () ↔ k.load id w'.records = .ok c) ∧
    (k.load id w'.records = .ok c → ∃ later,
      attend k (Errand.createGroup d id g) w' = (.ok (), later) ∧
      (∃ x, k.load id later.records = .ok x ∧ x.undated = (c.declaring g).undated ∧
        x.nodeGroups.filter (·.name = g.name) = [g]) ∧
      ∀ part ∈ g.parts true, ∃ m, d.manifest part.1 (c.declaring g) part.2 none = .ok m ∧
        later.object? m.target = some (m.bodyWith (w'.status? m.target))) ∧
    (k.load id w'.records ≠ .ok c →
      attend k (Errand.createGroup d id g) w' = (.error (.groupExists g.name c.name), w')) := by
  have straddles : k.Straddles id c g w'.records :=
    (Errand.upholds_adding faithful mine stored new).at_reached (.inl stored) cut
  obtain ⟨ms, drawn⟩ := drawn_group d (c.declaring g) g
  have refuses (listed : k.load id w'.records ≠ .ok c) :
      attend k (Errand.createGroup d id g) w' = (.error (.groupExists g.name c.name), w') := by
    obtain ⟨x, loaded, same⟩ := straddles.resolve_left listed
    have groups : x.nodeGroups = c.nodeGroups ++ [g] := congrArg Cluster.nodeGroups same
    have name := congrArg Cluster.name same
    rw [attend_createGroup_listed loaded ⟨g, by simp [groups], rfl⟩, show x.name = c.name from name]
  have repairs (before : k.load id w'.records = .ok c) :=
    attend_createGroup_new (d := d) before living new saves drawn
  refine ⟨straddles, ⟨fun ok => ?_, fun before => ?_⟩, fun before => ?_, refuses⟩
  · by_contra listed
    rw [refuses listed] at ok
    cases ok
  · rw [repairs before]
  · refine ⟨_, repairs before, ?_, fun part member => ?_⟩
    · obtain ⟨x, loaded, same⟩ := faithful.saved (c.declaring g) w'.records mine saves
      have groups : x.nodeGroups = c.nodeGroups ++ [g] := congrArg Cluster.nodeGroups same
      have others : c.nodeGroups.filter (·.name = g.name) = [] := by
        simpa [List.filter_eq_nil_iff] using new
      refine ⟨x, ?_, same, ?_⟩
      · rw [foldl_place_objects, ← mine]
        exact loaded
      · rw [groups, List.filter_append, others]
        simp
    · exact object?_groupParts drawn _ member

/-- The first object is refused after the record has been saved, or the save itself is. -/
theorem retry_recovers_iff_sample :
    let d := Deployment.sample
    let k := Keeper.memory
    let c := Cluster.completeSample .nil
    let g : NodeGroup := { name := "extra", role := .worker, nodeCount := 2 }
    let e : Error := .unsupported "apply"
    let w : World Records := { records := [(.nil, c)] }
    let recorded : World Records := { w with records := w.records.insert (c.declaring g) }
    k.Faithful .nil ∧ k.load .nil w.records = .ok c ∧ c.status.action ≠ .delete ∧
      (∀ h ∈ c.nodeGroups, h.name ≠ g.name) ∧
      Reaches (Faces k) (Errand.createGroup d .nil g).run w (.done (.error (.error e))) recorded ∧
      Reaches (Faces k) (Errand.createGroup d .nil g).run w (.done (.error (.error e))) w ∧
      attend k (Errand.createGroup d .nil g) recorded =
        (.error (.groupExists "extra" c.name), recorded) ∧
      (attend k (Errand.createGroup d .nil g) w).1 = .ok () := by
  intro d k c g e w recorded
  have faithful : k.Faithful .nil := Keeper.faithful_memory .nil
  have stored : k.load .nil w.records = .ok c := rfl
  have living : c.status.action ≠ .delete := by decide
  have new : ∀ h ∈ c.nodeGroups, h.name ≠ g.name := by decide
  have loads : Faces k (.load .nil) w (.ok c) w := ⟨w.records, rfl, .loaded .nil w.records⟩
  have saved : Faces k (.service (.saveCluster (c.declaring g))) w (.ok ()) recorded :=
    amid_answer (k := k) (.saveCluster (c.declaring g)) w
  have refused (q : ServiceRequest) (w : World Records) :
      Faces k (.service q) w (q.refuse e) w :=
    ⟨w, rfl, fun _ there => there, .refused e trivial⟩
  have applyRefused : Reaches (Faces k) (Errand.createGroup d .nil g).run w
      (.done (.error (.error e))) recorded :=
    .on loads (.on saved (.on (refused _ _) (.here _ _)))
  have saveRefused : Reaches (Faces k) (Errand.createGroup d .nil g).run w
      (.done (.error (.error e))) w :=
    .on loads (.on (refused _ _) (.here _ _))
  have first := retry_recovers_iff faithful rfl stored living new applyRefused rfl
  have second := retry_recovers_iff faithful rfl stored living new saveRefused rfl
  refine ⟨faithful, stored, living, new, applyRefused, saveRefused, ?_, second.2.1.2 stored⟩
  refine first.2.2.2 fun before => ?_
  have groups : (c.declaring g).nodeGroups = c.nodeGroups :=
    congrArg Cluster.nodeGroups (Except.ok.inj before)
  exact absurd groups (by decide)

end World

end ClusterLifecycle
