import ClusterLifecycle.Proofs.Lookups
import ClusterLifecycle.Proofs.RecordFiles
import ClusterLifecycle.World

/-!
What every keeper of records does for its callers: a record that is saved is held, and saving a
node group changes that group in the record that is held and nothing else.

* `Keeper.Holds`: the record that is held is the one in hand, whenever it was saved;
* `Keeper.Lawful`: what saving does, wherever the keeper can save;
* both ways of keeping records are lawful.
-/

namespace ClusterLifecycle

namespace Cluster

/-- The record without the time of its last save. -/
def undated (c : Cluster) : Cluster := { c with updatedAt := none }

theorem uuid_of_undated {c c' : Cluster} (h : c.undated = c'.undated) : c.uuid = c'.uuid := by
  have same := congrArg uuid h
  exact same

theorem undated_withNodeGroup {c c' : Cluster} (h : c.undated = c'.undated) (g : NodeGroup) :
    (c.withNodeGroup g).undated = (c'.withNodeGroup g).undated := by
  have same := congrArg (fun c => (c.withNodeGroup g).undated) h
  exact same

/-- The group in the place of the one of its name, where no other has that name. -/
theorem replaceGroup_middle {g g' : NodeGroup} (name : g'.name = g.name)
    (before after : List NodeGroup) (distinct : ∀ x ∈ before, x.name ≠ g.name) :
    replaceGroup g' (before ++ g :: after) = before ++ g' :: after := by
  induction before with
  | nil => simp only [List.nil_append, replaceGroup, name, ↓reduceIte]
  | cons x before ih =>
    obtain ⟨here, later⟩ := List.forall_mem_cons.1 distinct
    have other : x.name ≠ g'.name := by rwa [name]
    simp only [List.cons_append, replaceGroup, other, ↓reduceIte, ih later]

/-- The record with other groups. -/
def withGroups (c : Cluster) (groups : List NodeGroup) : Cluster := { c with nodeGroups := groups }

theorem withNodeGroup_middle {g g' : NodeGroup} (name : g'.name = g.name) (c : Cluster)
    (before after : List NodeGroup) (distinct : ∀ x ∈ before, x.name ≠ g.name) :
    (c.withGroups (before ++ g :: after)).withNodeGroup g' =
      c.withGroups (before ++ g' :: after) := by
  rw [withNodeGroup, withGroups, replaceGroup_middle name before after distinct]
  rfl

end Cluster

namespace Keeper

variable {ρ : Type}

/-- The record that is held is `c`, whenever it was saved. -/
def Holds (k : Keeper ρ) (c : Cluster) (records : ρ) : Prop :=
  ∃ stored, k.load c.uuid records = .ok stored ∧ stored.undated = c.undated

/-- What saving the record of that identity does, as long as it can be saved. -/
structure Lawful (k : Keeper ρ) (id : Uuid) (usable : ρ → Prop) : Prop where
  save : ∀ c records, c.uuid = id → usable records →
    ∃ later, k.save c records = (.ok (), later) ∧ usable later ∧ k.Holds c later
  saveNodeGroup : ∀ c g records, c.uuid = id → usable records → k.Holds c records →
    ∃ later, k.saveNodeGroup id g records = (.ok (), later) ∧ usable later ∧
      k.Holds (c.withNodeGroup g) later

theorem load_insert (records : Records) (c : Cluster) :
    (records.insert c).load c.uuid = .ok c := by
  rw [Records.load, Records.insert, List.lookup_cons_self]

theorem lawful_memory (id : Uuid) : memory.Lawful id fun _ => True where
  save c records _ _ := ⟨_, rfl, trivial, c, load_insert records c, rfl⟩
  saveNodeGroup c g records mine _ held := by
    obtain ⟨stored, found, same⟩ := held
    have found' : records.load id = .ok stored := mine ▸ found
    have there : stored.uuid = c.uuid := Cluster.uuid_of_undated same
    refine ⟨records.insert (stored.withNodeGroup g), ?_, trivial, stored.withNodeGroup g, ?_, ?_⟩
    · simp only [memory, found']
    · change (records.insert (stored.withNodeGroup g)).load c.uuid = _
      rw [← there]
      exact load_insert records (stored.withNodeGroup g)
    · exact Cluster.undated_withNodeGroup same g

/-- Records in files, wherever nothing stands in the way of the file. -/
theorem lawful_files (s : Store) {now : Timestamp} (valid : now.Valid) (id : Uuid) :
    (files s now).Lawful id (s.Usable id) := by
  have saves (c : Cluster) (fs : FileSystem) (mine : c.uuid = id) (usable : s.Usable id fs) :
      ∃ later, FileSystem.run (s.save now c) fs = (.ok (), later) ∧ s.Usable id later ∧
        (files s now).Holds c later := by
    subst mine
    obtain ⟨later, saved, written, usable'⟩ :=
      Store.run_write_ok (c := { c with updatedAt := some now }) usable
    have read := Cluster.read?_render { c with updatedAt := some now } (by rintro t ⟨⟩; exact valid)
    refine ⟨later, saved, usable', { c with updatedAt := some now }, ?_, rfl⟩
    exact congrArg Prod.fst (Store.run_load written read)
  constructor
  · exact saves
  · intro c g fs mine usable held
    obtain ⟨stored, found, same⟩ := held
    have there : stored.uuid = id := (Cluster.uuid_of_undated same).trans mine
    obtain ⟨later, saved, usable', again, found', same'⟩ :=
      saves (stored.withNodeGroup g) fs there usable
    refine ⟨later, ?_, usable', again, ?_, ?_⟩
    · change FileSystem.run (s.saveNodeGroup now id g) fs = _
      rw [Store.run_saveNodeGroup (mine ▸ found) now g, saved]
    · change (files s now).load c.uuid later = _
      rw [mine, ← there]
      exact found'
    · exact same'.trans (Cluster.undated_withNodeGroup same g)

end Keeper

end ClusterLifecycle
