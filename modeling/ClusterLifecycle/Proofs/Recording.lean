import ClusterLifecycle.Proofs.Keepers
import ClusterLifecycle.Proofs.Requests

/-!
Records while the services may answer anything.

* `Keeper.Attends`: what becomes of the records when a request is answered;
* `Keeper.Faithful`: what a save does to the record that is held, wherever it is asked for;
* both ways of keeping records are faithful;
* `Keeper.Shows`: what is known of the status that is stored, and which requests keep that.
-/

namespace ClusterLifecycle

namespace Store

variable {s : Store} {id : Uuid} {fs : FileSystem}

open FileSystem

/-- A record is loaded from a file that holds the text of one. -/
theorem run_load_ok_iff {c : Cluster} :
    (FileSystem.run (s.load id) fs).1 = .ok c ↔
      ∃ text, fs.find? (parts (s.path id)) = some (.file text) ∧ Cluster.read? text = some c := by
  constructor
  · intro loaded
    rw [load, run_read (meansDirectory_path s id) rfl, FileSystem.read] at loaded
    cases found : fs.find? (parts (s.path id)) with
    | some entry =>
      rw [found] at loaded
      cases entry with
      | file text =>
        dsimp only at loaded
        cases read : Cluster.read? text with
        | some c' =>
          rw [read] at loaded
          cases loaded
          exact ⟨text, rfl, read⟩
        | none =>
          rw [read] at loaded
          cases loaded
      | directory => cases loaded
    | none =>
      rw [found] at loaded
      dsimp only at loaded
      cases absence : fs.absence (parts (s.path id)) <;>
        rw [absence] at loaded <;> cases loaded
  · rintro ⟨text, found, read⟩
    rw [run_load found read]

theorem run_saveNodeGroup_error {e : Error} (loaded : (FileSystem.run (s.load id) fs).1 = .error e)
    (now : Timestamp) (g : NodeGroup) :
    FileSystem.run (s.saveNodeGroup now id g) fs = (.error e, fs) := by
  have unchanged := run_load_state s id fs
  rw [FileSystem.run] at loaded unchanged
  rw [saveNodeGroup, Program.bind_eq, FileSystem.run, Program.run_bind, loaded, unchanged]
  rfl

/-- What is left where a record is removed. -/
theorem run_remove_state (s : Store) (id : Uuid) (fs : FileSystem) :
    (FileSystem.run (s.remove id) fs).2 = (fs.change (fs.remove (parts (s.path id)))).2 := by
  cases removed : fs.change (fs.remove (parts (s.path id))) with
  | mk answer later =>
    rw [remove, run_remove removed]
    cases answer with
    | ok u => rfl
    | error fault => cases fault <;> rfl

/-- A record that is removed is not loaded again. -/
theorem run_load_remove {c : Cluster}
    (h : (FileSystem.run (s.load id) (FileSystem.run (s.remove id) fs).2).1 = .ok c) :
    (FileSystem.run (s.load id) fs).1 = .ok c := by
  have below : parts (s.path id) ≠ [] := by
    rw [parts_path]
    simp
  rw [run_remove_state] at h
  cases removed : fs.remove (parts (s.path id)) with
  | error fault =>
    rw [removed] at h
    exact h
  | ok later =>
    rw [removed] at h
    obtain ⟨text, found, -⟩ := run_load_ok_iff.1 h
    rw [FileSystem.remove] at removed
    cases there : fs.read (parts (s.path id)) with
    | error fault =>
      rw [there] at removed
      cases removed
    | ok old =>
      rw [there] at removed
      cases removed
      have gone : (fs.erase (parts (s.path id))).find? (parts (s.path id)) = none :=
        find?_erase_self below
      change (fs.erase (parts (s.path id))).find? (parts (s.path id)) = _ at found
      rw [gone] at found
      cases found

end Store

namespace Keeper

variable {ρ : Type} {k : Keeper ρ} {late : Prop}

/-- What becomes of the records when the services answer. To all but saves they may answer anything.
A save is done as the keeper does it, or fails before it or, where it may fail late, after it. -/
inductive Attends (k : Keeper ρ) (late : Prop) :
    (q : ServiceRequest) → ρ → q.Answer → ρ → Prop
  | other {q : ServiceRequest} (a : q.Answer) (records : ρ) (elsewhere : ¬ q.Saves) :
      Attends k late q records a records
  | saved (c : Cluster) (records : ρ) :
      Attends k late (.saveCluster c) records (k.save c records).1 (k.save c records).2
  | savedGroup (id : Uuid) (g : NodeGroup) (records : ρ) :
      Attends k late (.saveNodeGroup id g) records (k.saveNodeGroup id g records).1
        (k.saveNodeGroup id g records).2
  | refused {q : ServiceRequest} (e : Error) (records : ρ) :
      Attends k late q records (q.refuse e) records
  | lost (c : Cluster) (e : Error) (records : ρ) (allowed : late) :
      Attends k late (.saveCluster c) records (.error e) (k.save c records).2
  | lostGroup (id : Uuid) (g : NodeGroup) (e : Error) (records : ρ) (allowed : late) :
      Attends k late (.saveNodeGroup id g) records (.error e) (k.saveNodeGroup id g records).2

/-- What a keeper does to the record of that identity, wherever it can save or not. -/
structure Faithful (k : Keeper ρ) (id : Uuid) : Prop where
  saved : ∀ c records, c.uuid = id → (k.save c records).1 = .ok () →
    k.Holds c (k.save c records).2
  spared : ∀ c records e, c.uuid = id → (k.save c records).1 = .error e →
    ∀ x, k.load id (k.save c records).2 = .ok x ↔ k.load id records = .ok x
  saveNodeGroup : ∀ c g records, k.load id records = .ok c →
    k.saveNodeGroup id g records = k.save (c.withNodeGroup g) records
  unloaded : ∀ g records e, k.load id records = .error e →
    k.saveNodeGroup id g records = (.error e, records)
  removed : ∀ records x, k.load id (k.remove id records).2 = .ok x → k.load id records = .ok x

theorem faithful_memory (id : Uuid) : memory.Faithful id where
  saved c records _ _ := ⟨c, load_insert records c, rfl⟩
  spared _ _ _ _ := nofun
  saveNodeGroup c g records loaded := by
    change records.load id = .ok c at loaded
    simp only [memory, loaded]
  unloaded g records e loaded := by
    change records.load id = .error e at loaded
    simp only [memory, loaded]
  removed records x loaded := by
    change Records.load (records.filter (·.1 ≠ id)) id = .ok x at loaded
    rw [Records.load, lookup_filter_self] at loaded
    cases loaded

/-- Records in files, on any file system. -/
theorem faithful_files (s : Store) {now : Timestamp} (valid : now.Valid) (id : Uuid) :
    (files s now).Faithful id where
  saved c fs mine ok := by
    have usable : s.Usable id fs := by
      rw [← mine]
      exact Classical.not_not.1 fun unusable =>
        Store.run_write_error (c := { c with updatedAt := some now }) unusable ok
    obtain ⟨later, saved, -, held⟩ := (lawful_files s valid id).save c fs mine usable
    rw [saved]
    exact held
  spared c fs e mine failed x := by
    subst mine
    have unusable : ¬ s.Usable c.uuid fs := by
      intro usable
      obtain ⟨later, saved, -⟩ := (lawful_files s valid c.uuid).save c fs rfl usable
      rw [saved] at failed
      cases failed
    obtain ⟨e, fs', refused, same⟩ :=
      Store.run_write_refused (c := { c with updatedAt := some now }) unusable
    have left : ((files s now).save c fs).2 = fs' := congrArg Prod.snd refused
    rw [left]
    change (FileSystem.run _ _).1 = _ ↔ (FileSystem.run _ _).1 = _
    dsimp only at same
    rw [Store.run_load_ok_iff, Store.run_load_ok_iff, same]
  saveNodeGroup c g fs loaded := by
    dsimp only [files] at loaded ⊢
    exact Store.run_saveNodeGroup loaded now g
  unloaded g fs e loaded := by
    dsimp only [files] at loaded ⊢
    exact Store.run_saveNodeGroup_error loaded now g
  removed fs x loaded := by
    dsimp only [files] at loaded ⊢
    exact Store.run_load_remove loaded

/-- Whatever record is loaded under the identity has that identity, and its status is as `P` says. -/
def Shows (k : Keeper ρ) (id : Uuid) (P : Status → Prop) (records : ρ) : Prop :=
  ∀ c, k.load id records = .ok c → c.uuid = id ∧ P c.status

/-- What is to be saved is of the identity, and its status is as `P` says. -/
def Fits (id : Uuid) (P : Status → Prop) : ServiceRequest → Prop
  | .saveCluster c => c.uuid = id ∧ P c.status
  | .saveNodeGroup other _ => other = id
  | _ => True

theorem fits_of_elsewhere {id : Uuid} {P : Status → Prop} {q : ServiceRequest}
    (elsewhere : ¬ q.Saves) : Fits id P q := by
  cases q with
  | saveCluster | saveNodeGroup => exact absurd trivial elsewhere
  | _ => trivial

section
variable {id : Uuid} {P P' : Status → Prop} {records records' : ρ}

theorem Shows.mono (h : k.Shows id P records) (weaker : ∀ status, P status → P' status) :
    k.Shows id P' records :=
  fun c loaded => (h c loaded).imp_right (weaker c.status)

theorem Shows.same (h : k.Shows id P records)
    (same : ∀ c, k.load id records' = .ok c → k.load id records = .ok c) :
    k.Shows id P records' :=
  fun c loaded => h c (same c loaded)

theorem Holds.shows {c : Cluster} (held : k.Holds c records) (holds : P c.status) :
    k.Shows c.uuid P records := by
  obtain ⟨stored, found, same⟩ := held
  intro c' loaded
  rw [found] at loaded
  cases loaded
  have status := congrArg Cluster.status same
  exact ⟨Cluster.uuid_of_undated same, (show stored.status = c.status from status) ▸ holds⟩

variable (faithful : k.Faithful id)
include faithful

/-- A save shows the status that is saved, or what has been shown before. -/
theorem Shows.save {c : Cluster} (h : k.Shows id P records) (mine : c.uuid = id)
    (holds : P c.status) : k.Shows id P (k.save c records).2 := by
  cases result : (k.save c records).1 with
  | ok u =>
    have held := faithful.saved c records mine result
    exact mine ▸ held.shows holds
  | error e => exact h.same fun c' => (faithful.spared c records e mine result c').1

theorem Shows.saveNodeGroup (g : NodeGroup) (h : k.Shows id P records) :
    k.Shows id P (k.saveNodeGroup id g records).2 := by
  cases loaded : k.load id records with
  | ok c =>
    obtain ⟨mine, holds⟩ := h c loaded
    rw [faithful.saveNodeGroup c g records loaded]
    exact h.save faithful mine holds
  | error e =>
    rw [faithful.unloaded g records e loaded]
    exact h

/-- Requests that fit keep what is shown. -/
theorem Shows.exchange {q : ServiceRequest} {a : q.Answer} (h : k.Shows id P records)
    (fits : Fits id P q) (attended : k.Attends late q records a records') :
    k.Shows id P records' := by
  cases attended with
  | other | refused => exact h
  | saved c | lost c => exact h.save faithful fits.1 fits.2
  | savedGroup other g | lostGroup other g =>
    cases fits
    exact h.saveNodeGroup faithful g

end

end Keeper

end ClusterLifecycle
