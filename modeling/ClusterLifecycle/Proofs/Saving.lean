import ClusterLifecycle.Proofs.Listing

/-!
Saves of records, and of single groups of records.

* `Saving`: either kind of save, with the record that it is to write;
* `Saving.run_program`: either writes that record, once what is stored has been loaded;
* `Store.run_write_ok_iff`: the three steps in which a record is written.
-/

namespace ClusterLifecycle

open FileSystem

/-- A save of a record, or of one group of the record with that identity. -/
inductive Saving where
  | cluster (c : Cluster)
  | nodeGroup (id : Uuid) (g : NodeGroup)

namespace Saving

/-- The identity that is saved under. -/
def target : Saving → Uuid
  | cluster c => c.uuid
  | nodeGroup id _ => id

/-- The record that is to be written where `stored` is loaded. A group has none to go to where
nothing can be loaded. -/
def record (stored : Result Cluster) : Saving → Result Cluster
  | cluster c => .ok c
  | nodeGroup _ g => stored.map (·.withNodeGroup g)

def program (s : Store) (now : Timestamp) : Saving → FileProgram (Result Unit)
  | cluster c => s.save now c
  | nodeGroup id g => s.saveNodeGroup now id g

variable {s : Store} {fs : FileSystem} {x : Saving} {c : Cluster}

theorem uuid_of_record {stored : Result Cluster} (filed : ∀ c, stored = .ok c → c.uuid = x.target)
    (made : x.record stored = .ok c) : c.uuid = x.target := by
  cases x with
  | cluster given =>
    cases made
    rfl
  | nodeGroup id g =>
    cases stored with
    | ok old =>
      cases made
      exact filed old rfl
    | error e => cases made

theorem exists_record (x : Saving) (stored : Cluster) : ∃ c, x.record (.ok stored) = .ok c := by
  cases x <;> exact ⟨_, rfl⟩

theorem run_program (now : Timestamp) (made : x.record (s.loaded fs x.target) = .ok c) :
    FileSystem.run (x.program s now) fs = FileSystem.run (s.save now c) fs := by
  cases x with
  | cluster given =>
    cases made
    rfl
  | nodeGroup id g =>
    cases loaded : s.loaded fs id with
    | ok old =>
      rw [target, loaded] at made
      cases made
      exact Store.run_saveNodeGroup loaded now g
    | error e =>
      rw [target, loaded] at made
      cases made

theorem run_program_error {e : Error} (now : Timestamp)
    (made : x.record (s.loaded fs x.target) = .error e) :
    FileSystem.run (x.program s now) fs = (.error e, fs) := by
  cases x with
  | cluster given => cases made
  | nodeGroup id g =>
    cases loaded : s.loaded fs id with
    | ok old =>
      rw [target, loaded] at made
      cases made
    | error e' =>
      rw [target, loaded] at made
      cases made
      exact Store.run_saveNodeGroup_error loaded now g

end Saving

namespace Store

variable {s : Store} {fs fs' : FileSystem} {c : Cluster}

/-- A record is written by making the directory, writing the text under the temporary name and
giving it the name of the record. -/
theorem run_write_ok_iff : FileSystem.run (s.write c) fs = (.ok (), fs') ↔
    ∃ fs₁ fs₂, fs.makeDirectory (parts s.directory) = .ok fs₁ ∧
      fs₁.write (parts (s.temporaryPath c.uuid)) c.render = .ok fs₂ ∧
      fs₂.rename (parts (s.temporaryPath c.uuid)) (parts (s.path c.uuid)) = .ok fs' := by
  rw [write]
  cases made : fs.makeDirectory (parts s.directory) with
  | error fault =>
    rw [run_makeDirectory (congrArg fs.change made)]
    exact iff_of_false (by rintro ⟨⟩) (by simp)
  | ok fs₁ =>
    rw [run_makeDirectory (congrArg fs.change made)]
    dsimp only
    cases written : fs₁.write (parts (s.temporaryPath c.uuid)) c.render with
    | error fault =>
      rw [run_write (meansDirectory_temporaryPath s c.uuid) (congrArg fs₁.change written)]
      exact iff_of_false (by rintro ⟨⟩) (by simp [written])
    | ok fs₂ =>
      rw [run_write (meansDirectory_temporaryPath s c.uuid) (congrArg fs₁.change written)]
      dsimp only
      cases renamed : fs₂.rename (parts (s.temporaryPath c.uuid)) (parts (s.path c.uuid)) with
      | error fault =>
        rw [run_rename (congrArg fs₂.change renamed)]
        exact iff_of_false (by rintro ⟨⟩) (by simp [written, renamed])
      | ok fs₃ =>
        rw [run_rename (congrArg fs₂.change renamed)]
        constructor
        · rintro ⟨⟩
          exact ⟨fs₁, fs₂, rfl, written, renamed⟩
        · rintro ⟨_, _, ⟨⟩, again, put⟩
          rw [written] at again
          cases again
          rw [renamed] at put
          cases put
          rfl

/-- The file system that a write leaves. -/
theorem eq_of_run_write (done : FileSystem.run (s.write c) fs = (.ok (), fs')) :
    ∃ fs₁, fs.makeDirectory (parts s.directory) = .ok fs₁ ∧
      fs' = ((fs₁.put (parts (s.temporaryPath c.uuid)) (.file c.render)).put
        (parts (s.path c.uuid)) (.file c.render)).erase (parts (s.temporaryPath c.uuid)) := by
  obtain ⟨fs₁, fs₂, made, written, renamed⟩ := run_write_ok_iff.1 done
  obtain ⟨-, rfl⟩ := eq_put_of_write written
  obtain ⟨text, found, rfl⟩ := eq_erase_of_rename (parts_apart s c.uuid) renamed
  rw [find?_put_self (parts_temporaryPath_ne_nil s c.uuid)] at found
  have same : c.render = text := FileEntry.file.inj (Option.some.inj found)
  rw [← same]
  exact ⟨fs₁, made, Eq.refl _⟩

/-- A write leaves the directory of the records there. -/
theorem directory_of_write (done : FileSystem.run (s.write c) fs = (.ok (), fs')) :
    fs'.find? (parts s.directory) = some .directory := by
  obtain ⟨fs₁, made, rfl⟩ := eq_of_run_write done
  have there := (found_of_makeDirectory made).2.1 _ (List.prefix_refl _)
  rw [parts_temporaryPath, parts_path, find?_erase_of_ne (by simp), find?_put_of_ne (by simp),
    find?_put_of_ne (by simp), there]

end Store

end ClusterLifecycle
