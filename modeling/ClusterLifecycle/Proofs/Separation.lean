import ClusterLifecycle.Proofs.Recording

/-!
Keepers keep the records of different clusters apart.

* `Store.Alike`: file systems that show the same of a record;
* `Store.Alike.write`, `Store.Beside.alike`: a write goes by what is shown of its record, and leaves
  what is shown of the others;
* `Keeper.Separates`: the same of a keeper of any kind;
* `Keeper.KeepsApart`: both ways of keeping records are faithful, and separate them.
-/

namespace ClusterLifecycle

open FileSystem

namespace FileSystem

variable {fs fs' : FileSystem} {place source target : List String} {text name : String}

theorem eq_put_of_write (h : fs.write place text = .ok fs') :
    fs.find? place ≠ some .directory ∧ fs' = fs.put place (.file text) := by
  unfold write at h
  split at h
  case h_1 => cases h
  case h_2 other =>
    cases h
    exact ⟨other, rfl⟩
  case h_3 => cases h

theorem eq_erase_of_rename (apart : source ≠ target) (h : fs.rename source target = .ok fs') :
    ∃ text, fs.find? source = some (.file text) ∧
      fs' = (fs.put target (.file text)).erase source := by
  unfold rename FileSystem.read at h
  cases found : fs.find? source with
  | none =>
    rw [found] at h
    cases h
  | some entry =>
    rw [found] at h
    cases entry with
    | directory => cases h
    | file text =>
      dsimp only at h
      cases written : fs.write target text with
      | error fault =>
        rw [written] at h
        cases h
      | ok later =>
        rw [written, Except.map, if_neg apart] at h
        cases h
        obtain ⟨-, rfl⟩ := eq_put_of_write written
        exact ⟨text, rfl, rfl⟩

/-- A file is in the way to a name where one is on the way to its directory. -/
theorem blocked_iff : fs.blocked (place ++ [name]) = true ↔
    ¬∀ before, before <+: place → fs.Clear before := by
  simp only [blocked, List.any_eq_true, List.mem_range, Classical.not_forall,
    List.length_append, List.length_singleton]
  constructor
  · rintro ⟨n, short, found⟩
    rw [List.take_append_of_le_length (Nat.le_of_lt_succ short)] at found
    refine ⟨_, List.take_prefix n place, fun clear => ?_⟩
    cases there : fs.find? (place.take n) with
    | none =>
      rw [there] at found
      cases found
    | some entry =>
      rw [there] at found
      cases entry with
      | file text => exact clear text there
      | directory => cases found
  · rintro ⟨before, above, file⟩
    simp only [Clear, Classical.not_forall, Classical.not_not] at file
    obtain ⟨text, found⟩ := file
    refine ⟨before.length, Nat.lt_succ_of_le above.length_le, ?_⟩
    rw [List.take_append_of_le_length above.length_le, ← List.prefix_iff_eq_take.1 above, found]

end FileSystem

namespace Store

/-- No file is on the way to the directory of the records. -/
def Open (s : Store) (fs : FileSystem) : Prop :=
  ∀ before, before <+: parts s.directory → fs.Clear before

/-- Both file systems show the same of the record: whether its directory can be made, what there is
in its place, and whether its temporary file can be written. -/
structure Alike (s : Store) (id : Uuid) (fs fs' : FileSystem) : Prop where
  way : s.Open fs ↔ s.Open fs'
  record : fs.find? (parts (s.path id)) = fs'.find? (parts (s.path id))
  temporary : fs.find? (parts (s.temporaryPath id)) = some .directory ↔
    fs'.find? (parts (s.temporaryPath id)) = some .directory

/-- What a write of the record leaves as it was. -/
structure Beside (s : Store) (id : Uuid) (fs fs' : FileSystem) : Prop where
  way : s.Open fs ↔ s.Open fs'
  temporary : fs.find? (parts (s.temporaryPath id)) = some .directory ↔
    fs'.find? (parts (s.temporaryPath id)) = some .directory
  others : ∀ name, name ≠ id.toString ++ ".yaml" → name ≠ id.toString ++ ".yaml" ++ ".tmp" →
    fs.find? (parts s.directory ++ [name]) = fs'.find? (parts s.directory ++ [name])

variable {s : Store} {id id' : Uuid} {fs fs' fs'' : FileSystem}

theorem Beside.rfl : s.Beside id fs fs := ⟨.rfl, .rfl, fun _ _ _ => Eq.refl _⟩

theorem Beside.trans (h : s.Beside id fs fs') (h' : s.Beside id fs' fs'') :
    s.Beside id fs fs'' where
  way := h.way.trans h'.way
  temporary := h.temporary.trans h'.temporary
  others name record temporary :=
    (h.others name record temporary).trans (h'.others name record temporary)

theorem beside_makeDirectory (s : Store) (id : Uuid) (fs : FileSystem) :
    s.Beside id fs (fs.change (fs.makeDirectory (parts s.directory))).2 := by
  by_cases way : s.Open fs
  · obtain ⟨later, made, there, same⟩ := makeDirectory_ok way
    rw [made]
    change s.Beside id fs later
    refine ⟨iff_of_true way ?_, ?_, fun name _ _ => (same _ (not_on_way name)).symm⟩
    · intro before above text
      rw [there before above]
      nofun
    · rw [parts_temporaryPath]
      rw [same _ (not_on_way _)]
  · have blocked := way
    simp only [Open, Classical.not_forall] at blocked
    obtain ⟨before, above, file⟩ := blocked
    rw [makeDirectory_error above file]
    exact .rfl

/-- What is done to the two files of a record shows nowhere else. -/
theorem beside_of_same (temporary : fs.find? (parts (s.temporaryPath id)) = some .directory ↔
      fs'.find? (parts (s.temporaryPath id)) = some .directory)
    (same : ∀ place, place ≠ parts (s.path id) → place ≠ parts (s.temporaryPath id) →
      fs.find? place = fs'.find? place) : s.Beside id fs fs' := by
  have above (before : List String) (h : before <+: parts s.directory) :
      fs.find? before = fs'.find? before := by
    refine same before ?_ ?_
    · rintro rfl
      exact not_on_way _ (parts_path s id ▸ h)
    · rintro rfl
      exact not_on_way _ (parts_temporaryPath s id ▸ h)
  refine ⟨?_, temporary, fun name record temporary => same _ ?_ ?_⟩
  · refine forall₂_congr fun before h => ?_
    rw [Clear, Clear, above before h]
  · rw [parts_path]
    simpa using record
  · rw [parts_temporaryPath]
    simpa using temporary

theorem parts_apart (s : Store) (id : Uuid) : parts (s.temporaryPath id) ≠ parts (s.path id) := by
  rw [parts_temporaryPath, parts_path]
  simp

theorem beside_temporary (s : Store) (id : Uuid) (fs : FileSystem) (text : String) :
    s.Beside id fs (fs.change (fs.write (parts (s.temporaryPath id)) text)).2 := by
  cases written : fs.write (parts (s.temporaryPath id)) text with
  | error fault => exact .rfl
  | ok later =>
    obtain ⟨file, rfl⟩ := eq_put_of_write written
    refine beside_of_same (iff_of_false file ?_) fun place _ other => (find?_put_of_ne other _).symm
    change (fs.put _ _).find? _ ≠ _
    rw [find?_put_self (parts_temporaryPath_ne_nil s id)]
    nofun

theorem beside_rename (s : Store) (id : Uuid) (fs : FileSystem) :
    s.Beside id fs
      (fs.change (fs.rename (parts (s.temporaryPath id)) (parts (s.path id)))).2 := by
  cases renamed : fs.rename (parts (s.temporaryPath id)) (parts (s.path id)) with
  | error fault => exact .rfl
  | ok later =>
    obtain ⟨text, found, rfl⟩ := eq_erase_of_rename (parts_apart s id) renamed
    refine beside_of_same (iff_of_false ?_ ?_) fun place record temporary => ?_
    · rw [found]
      nofun
    · change (FileSystem.erase _ _).find? _ ≠ _
      rw [find?_erase_self (parts_temporaryPath_ne_nil s id)]
      nofun
    · change _ = (FileSystem.erase _ _).find? _
      rw [find?_erase_of_ne temporary, find?_put_of_ne record]

/-- A record is written or it is not, for one reason only; the other records stay as they were. -/
theorem run_write_beside (s : Store) (c : Cluster) (fs : FileSystem) :
    ((FileSystem.run (s.write c) fs).1 = .ok () ∨
      (FileSystem.run (s.write c) fs).1 =
        .error (.persistence c.uuid.toString Error.foreign)) ∧
      s.Beside c.uuid fs (FileSystem.run (s.write c) fs).2 := by
  have first := beside_makeDirectory s c.uuid fs
  rw [write]
  cases made : fs.change (fs.makeDirectory (parts s.directory)) with
  | mk answer fs₁ =>
    rw [made] at first
    rw [run_makeDirectory made]
    cases answer with
    | error fault => exact ⟨.inr rfl, first⟩
    | ok u =>
      dsimp only
      have second := beside_temporary s c.uuid fs₁ c.render
      cases written : fs₁.change (fs₁.write (parts (s.temporaryPath c.uuid)) c.render) with
      | mk answer fs₂ =>
        rw [written] at second
        rw [run_write (meansDirectory_temporaryPath s c.uuid) written]
        cases answer with
        | error fault => exact ⟨.inr rfl, first.trans second⟩
        | ok u =>
          dsimp only
          have third := beside_rename s c.uuid fs₂
          cases renamed : fs₂.change
              (fs₂.rename (parts (s.temporaryPath c.uuid)) (parts (s.path c.uuid))) with
          | mk answer fs₃ =>
            rw [renamed] at third
            rw [run_rename renamed]
            cases answer with
            | error fault => exact ⟨.inr rfl, (first.trans second).trans third⟩
            | ok u => exact ⟨.inl rfl, (first.trans second).trans third⟩

/-- The files of one record are not those of another. -/
theorem Beside.alike (h : s.Beside id' fs fs') (other : id ≠ id') : s.Alike id fs fs' := by
  have identities : id.toString ≠ id'.toString := fun same => other (Uuid.toString_injective same)
  have record : id.toString ++ ".yaml" ≠ id'.toString ++ ".yaml" :=
    fun same => identities ((String.append_left_inj _).1 same)
  have lengths : id.toString.length = id'.toString.length := by
    rw [Uuid.length_toString, Uuid.length_toString]
  have shorter : id.toString ++ ".yaml" ≠ id'.toString ++ ".yaml" ++ ".tmp" := by
    intro same
    have same := congrArg String.length same
    simp [String.length_append, lengths] at same
  have longer : id.toString ++ ".yaml" ++ ".tmp" ≠ id'.toString ++ ".yaml" := by
    intro same
    have same := congrArg String.length same
    simp [String.length_append, lengths] at same
  have temporary : id.toString ++ ".yaml" ++ ".tmp" ≠ id'.toString ++ ".yaml" ++ ".tmp" :=
    fun same => record ((String.append_left_inj _).1 same)
  refine ⟨h.way, ?_, ?_⟩
  · rw [parts_path]
    exact h.others _ record shorter
  · rw [parts_temporaryPath, h.others _ longer temporary]

theorem Alike.symm (h : s.Alike id fs fs') : s.Alike id fs' fs :=
  ⟨h.way.symm, h.record.symm, h.temporary.symm⟩

theorem Alike.trans (h : s.Alike id fs fs') (h' : s.Alike id fs' fs'') : s.Alike id fs fs'' :=
  ⟨h.way.trans h'.way, h.record.trans h'.record, h.temporary.trans h'.temporary⟩

theorem Alike.usable (h : s.Alike id fs fs') (usable : s.Usable id fs) : s.Usable id fs' :=
  ⟨h.way.1 usable.way, h.record ▸ usable.record, mt h.temporary.2 usable.temporary⟩

/-- Where the same is shown of a record the same is loaded. -/
theorem Alike.load (h : s.Alike id fs fs') :
    (FileSystem.run (s.load id) fs).1 = (FileSystem.run (s.load id) fs').1 := by
  have absence : fs.absence (parts (s.path id)) = fs'.absence (parts (s.path id)) := by
    have blocked : fs.blocked (parts (s.path id)) = fs'.blocked (parts (s.path id)) := by
      rw [Bool.eq_iff_iff, parts_path, blocked_iff, blocked_iff]
      exact not_congr h.way
    rw [FileSystem.absence, blocked, FileSystem.absence]
  have read : fs.read (parts (s.path id)) = fs'.read (parts (s.path id)) := by
    rw [FileSystem.read, h.record, absence, FileSystem.read]
  have again : fs'.read (parts (s.path id)) = fs'.read (parts (s.path id)) := rfl
  rw [Store.load, run_read (meansDirectory_path s id) read,
    run_read (meansDirectory_path s id) again]
  cases fs'.read (parts (s.path id)) with
  | error fault => cases fault <;> rfl
  | ok text =>
    dsimp only
    cases Cluster.read? text <;> rfl

/-- Where the same is shown of a record, a write does the same. -/
theorem Alike.write {c : Cluster} (h : s.Alike c.uuid fs fs') :
    (FileSystem.run (s.write c) fs).1 = (FileSystem.run (s.write c) fs').1 ∧
      s.Alike c.uuid (FileSystem.run (s.write c) fs).2 (FileSystem.run (s.write c) fs').2 := by
  obtain ⟨answer, beside⟩ := run_write_beside s c fs
  obtain ⟨answer', beside'⟩ := run_write_beside s c fs'
  have way := beside.way.symm.trans (h.way.trans beside'.way)
  have temporary := beside.temporary.symm.trans (h.temporary.trans beside'.temporary)
  by_cases usable : s.Usable c.uuid fs
  · obtain ⟨later, saved, record, -⟩ := run_write_ok (c := c) usable
    obtain ⟨later', saved', record', -⟩ := run_write_ok (c := c) (h.usable usable)
    rw [saved, saved'] at way temporary ⊢
    exact ⟨rfl, way, record.trans record'.symm, temporary⟩
  · have unusable : ¬s.Usable c.uuid fs' := fun usable' => usable (h.symm.usable usable')
    obtain ⟨e, later, refused, record⟩ := run_write_refused (c := c) usable
    obtain ⟨e', later', refused', record'⟩ := run_write_refused (c := c) unusable
    have same := (answer.resolve_left (run_write_error usable)).trans
      (answer'.resolve_left (run_write_error unusable)).symm
    rw [refused, refused'] at way temporary same ⊢
    exact ⟨same, way, record.trans (h.record.trans record'.symm), temporary⟩

end Store

namespace Keeper

variable {ρ : Type}

/-- What is answered about a record, and what becomes of it, comes from what the keeper shows of
that record; and what is shown of it stays the same when other records are saved. -/
structure Separates (k : Keeper ρ) (id : Uuid) (Same : ρ → ρ → Prop) : Prop where
  refl : ∀ records, Same records records
  load : ∀ {records records'}, Same records records' → k.load id records = k.load id records'
  save : ∀ {records records'} c, c.uuid = id → Same records records' →
    (k.save c records).1 = (k.save c records').1 ∧
      Same (k.save c records).2 (k.save c records').2
  elsewhere : ∀ {records records'} c, c.uuid ≠ id → Same records records' →
    Same (k.save c records).2 records'

theorem separates_memory (id : Uuid) :
    memory.Separates id fun records records' => records.load id = records'.load id where
  refl _ := rfl
  load same := same
  save c mine _ := by
    subst mine
    exact ⟨rfl, (load_insert _ c).trans (load_insert _ c).symm⟩
  elsewhere {records records'} c other same := by
    change (records.insert c).load id = records'.load id
    rw [← same, Records.load, Records.insert, List.lookup_cons, beq_eq_false_iff_ne.2 other.symm,
      Records.load]
    dsimp only
    rw [lookup_filter_ne other.symm]

/-- Records in files, on any file system. -/
theorem separates_files (s : Store) (now : Timestamp) (id : Uuid) :
    (files s now).Separates id (s.Alike id) where
  refl _ := ⟨.rfl, rfl, .rfl⟩
  load same := same.load
  save c mine same := by
    subst mine
    exact Store.Alike.write (c := { c with updatedAt := some now }) same
  elsewhere {fs fs'} c other same := by
    have beside := (Store.run_write_beside s { c with updatedAt := some now } fs).2
    exact (beside.alike other.symm).symm.trans same

/-- A keeper of many records, who does with each what is asked and minds no others. -/
def KeepsApart (k : Keeper ρ) : Prop := ∀ id, k.Faithful id ∧ ∃ Same, k.Separates id Same

theorem keepsApart_memory : memory.KeepsApart :=
  fun id => ⟨faithful_memory id, _, separates_memory id⟩

theorem keepsApart_files (s : Store) {now : Timestamp} (valid : now.Valid) :
    (files s now).KeepsApart :=
  fun id => ⟨faithful_files s valid id, _, separates_files s now id⟩

/-- What is stored under the identity, if anything, is a record of that identity. -/
def Filed (k : Keeper ρ) (id : Uuid) (records : ρ) : Prop := k.Shows id (fun _ => True) records

theorem filed_empty (s : Store) (now : Timestamp) (id : Uuid) : (files s now).Filed id {} := by
  intro c loaded
  obtain ⟨text, found, -⟩ := Store.run_load_ok_iff.1 loaded
  rw [Store.parts_path, find?_of_ne_nil (by simp)] at found
  cases found

section
variable {k : Keeper ρ} {id id' : Uuid} {Same : ρ → ρ → Prop} {records records' : ρ}
  (separates : k.Separates id Same)
include separates

theorem Separates.saveNodeGroup (faithful : k.Faithful id) (filed : k.Filed id records)
    (g : NodeGroup) (same : Same records records') :
    (k.saveNodeGroup id g records).1 = (k.saveNodeGroup id g records').1 ∧
      Same (k.saveNodeGroup id g records).2 (k.saveNodeGroup id g records').2 := by
  have loaded := separates.load same
  cases found : k.load id records with
  | ok c =>
    rw [found] at loaded
    rw [faithful.saveNodeGroup c g records found, faithful.saveNodeGroup c g records' loaded.symm]
    exact separates.save (c.withNodeGroup g) (filed c found).1 same
  | error e =>
    rw [found] at loaded
    rw [faithful.unloaded g records e found, faithful.unloaded g records' e loaded.symm]
    exact ⟨rfl, same⟩

theorem Separates.saveNodeGroup_elsewhere (faithful : k.Faithful id') (filed : k.Filed id' records)
    (other : id' ≠ id) (g : NodeGroup) (same : Same records records') :
    Same (k.saveNodeGroup id' g records).2 records' := by
  cases found : k.load id' records with
  | ok c =>
    rw [faithful.saveNodeGroup c g records found]
    have there : c.uuid = id' := (filed c found).1
    exact separates.elsewhere (c.withNodeGroup g) (there ▸ other) same
  | error e =>
    rw [faithful.unloaded g records e found]
    exact same

end

section
variable {k : Keeper ρ} {id : Uuid} {records : ρ} (keeps : k.KeepsApart)
  (filed : k.Filed id records)
include keeps filed

/-- A record stays filed, whatever is saved. -/
theorem KeepsApart.filed_save (c : Cluster) : k.Filed id (k.save c records).2 := by
  obtain ⟨faithful, Same, separates⟩ := keeps id
  by_cases mine : c.uuid = id
  · exact Shows.save faithful filed mine trivial
  · have same := separates.load (separates.elsewhere c mine (separates.refl records))
    exact Shows.same filed fun _ loaded => same ▸ loaded

theorem KeepsApart.filed_saveNodeGroup (id' : Uuid) (g : NodeGroup) :
    k.Filed id (k.saveNodeGroup id' g records).2 := by
  obtain ⟨faithful, -⟩ := keeps id'
  cases found : k.load id' records with
  | ok c =>
    rw [faithful.saveNodeGroup c g records found]
    exact keeps.filed_save filed (c.withNodeGroup g)
  | error e =>
    rw [faithful.unloaded g records e found]
    exact filed

end

end Keeper

end ClusterLifecycle
