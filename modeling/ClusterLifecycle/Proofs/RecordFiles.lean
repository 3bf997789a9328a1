import ClusterLifecycle.Proofs.Files
import ClusterLifecycle.Proofs.Records
import ClusterLifecycle.Store

/-!
A record that is saved to a file is loaded from it again.
-/

namespace ClusterLifecycle

open FileSystem

namespace Uuid

theorem not_mem_toList {c : Char} (no_hyphen : c ≠ '-')
    (no_digit : ∀ d : Fin 16, c ≠ Text.hexDigit d.val) (id : Uuid) : c ∉ id.toList := by
  have no_hex : c ∉ id.digits.map fun d => Text.hexDigit d.val := by
    rw [List.mem_map]
    rintro ⟨d, -, rfl⟩
    exact no_digit d rfl
  have within (n m : Nat) : c ∉ ((id.digits.map fun d => Text.hexDigit d.val).drop n).take m :=
    fun h => no_hex (List.mem_of_mem_drop (List.mem_of_mem_take h))
  simp only [toList, List.mem_append, List.mem_cons, no_hyphen, false_or, not_or]
  exact ⟨⟨⟨⟨fun h => no_hex (List.mem_of_mem_take h), within 8 4⟩, within 12 4⟩, within 16 4⟩,
    fun h => no_hex (List.mem_of_mem_drop h)⟩

end Uuid

namespace Store

variable (s : Store) (id : Uuid)

theorem flat_recordName : '/' ∉ (id.toString ++ ".yaml").toList := by
  have flat : '/' ∉ id.toList := id.not_mem_toList (by decide) (by decide)
  simp [Uuid.toString, flat]

theorem isName_record : Files.IsName (id.toString ++ ".yaml") :=
  Files.isName_of_mem (flat_recordName id) (c := 'y') (by simp) (by decide)

theorem isName_temporary : Files.IsName (id.toString ++ ".yaml" ++ ".tmp") := by
  have flat : '/' ∉ (id.toString ++ ".yaml" ++ ".tmp").toList := by
    rw [String.toList_append, List.mem_append, not_or]
    exact ⟨flat_recordName id, by decide⟩
  exact Files.isName_of_mem flat (c := 't') (by simp) (by decide)

theorem parts_path : parts (s.path id) = parts s.directory ++ [id.toString ++ ".yaml"] :=
  parts_join s.directory (isName_record id)

theorem temporaryPath_eq :
    s.temporaryPath id = Files.join s.directory (id.toString ++ ".yaml" ++ ".tmp") :=
  Files.join_append _ _ _

theorem parts_temporaryPath :
    parts (s.temporaryPath id) = parts s.directory ++ [id.toString ++ ".yaml" ++ ".tmp"] := by
  rw [temporaryPath_eq, parts_join s.directory (isName_temporary id)]

theorem parts_temporaryPath_ne_nil : parts (s.temporaryPath id) ≠ [] := by
  simp [parts_temporaryPath]

theorem meansDirectory_path : meansDirectory (s.path id) = false :=
  meansDirectory_join s.directory (isName_record id)

theorem meansDirectory_temporaryPath : meansDirectory (s.temporaryPath id) = false := by
  rw [temporaryPath_eq, meansDirectory_join s.directory (isName_temporary id)]

/-- A record can be written: no file is on the way to the directory, and no directory is where the
record or its temporary file would be. -/
structure Usable (fs : FileSystem) : Prop where
  way : ∀ before, before <+: parts s.directory → fs.Clear before
  record : fs.find? (parts (s.path id)) ≠ some .directory
  temporary : fs.find? (parts (s.temporaryPath id)) ≠ some .directory

variable {s id} {fs : FileSystem}

/-- A name in the directory is not on the way to the directory. -/
theorem not_on_way (name : String) : ¬ parts s.directory ++ [name] <+: parts s.directory := by
  intro h
  have longer := h.length_le
  rw [List.length_append, List.length_singleton] at longer
  omega

theorem temporary_ne_record : id.toString ++ ".yaml" ++ ".tmp" ≠ id.toString ++ ".yaml" := by
  intro same
  have longer := congrArg String.length same
  simp [String.length_append] at longer

/-- Nothing stands in the way where there is nothing. -/
theorem usable_empty (s : Store) (id : Uuid) : s.Usable id {} := by
  have absent {place : List String} (h : place ≠ []) : ({} : FileSystem).find? place = none := by
    rw [find?_of_ne_nil h]
    rfl
  refine ⟨?_, ?_, ?_⟩
  · intro before _ text
    by_cases root : before = []
    · rw [root, find?_nil]
      nofun
    · rw [absent root]
      nofun
  · rw [parts_path, absent (by simp)]
    nofun
  · rw [parts_temporaryPath, absent (by simp)]
    nofun

/-- Where it is usable a record is written, and it is as usable afterwards. -/
theorem run_write_ok {c : Cluster} (usable : s.Usable c.uuid fs) :
    ∃ fs', FileSystem.run (s.write c) fs = (.ok (), fs') ∧
      fs'.find? (parts (s.path c.uuid)) = some (.file c.render) ∧ s.Usable c.uuid fs' := by
  obtain ⟨way, record, temporary⟩ := usable
  rw [parts_path] at record
  rw [parts_temporaryPath] at temporary
  obtain ⟨fs₁, made, all_there, same⟩ := makeDirectory_ok way
  have there := all_there _ (List.prefix_refl _)
  rw [← same _ (not_on_way _)] at record temporary
  have written := write_ok (by rw [List.dropLast_concat, there]) temporary c.render
  obtain ⟨fs₂, renamed, found, gone, same₂⟩ :=
    replace_ok there temporary_ne_record record c.render
  rw [← parts_temporaryPath] at written renamed
  rw [← parts_path] at renamed
  refine ⟨fs₂, ?_, by rwa [parts_path], ?_, ?_, ?_⟩
  · rw [write, run_makeDirectory (congrArg fs.change made)]
    dsimp only
    rw [run_write (meansDirectory_temporaryPath s c.uuid) (congrArg fs₁.change written)]
    dsimp only
    rw [run_rename (congrArg (FileSystem.change _) renamed)]
    rfl
  · intro before h text
    have above (entry : String) : before ≠ parts s.directory ++ [entry] := by
      rintro rfl
      exact not_on_way entry h
    rw [same₂ before above, all_there before h]
    nofun
  · rw [parts_path, found]
    nofun
  · rw [parts_temporaryPath, gone]
    nofun

/-- Elsewhere it is not written, and the record that was there stays. -/
theorem run_write_refused {c : Cluster} (h : ¬ s.Usable c.uuid fs) :
    ∃ e fs', FileSystem.run (s.write c) fs = (.error e, fs') ∧
      fs'.find? (parts (s.path c.uuid)) = fs.find? (parts (s.path c.uuid)) := by
  rw [write]
  by_cases way : ∀ before, before <+: parts s.directory → fs.Clear before
  case neg =>
    simp only [Classical.not_forall] at way
    obtain ⟨before, above, file⟩ := way
    rw [run_makeDirectory (congrArg fs.change (makeDirectory_error above file))]
    exact ⟨_, fs, rfl, rfl⟩
  obtain ⟨fs₁, made, all_there, same⟩ := makeDirectory_ok way
  have there := all_there _ (List.prefix_refl _)
  have kept : fs₁.find? (parts (s.path c.uuid)) = fs.find? (parts (s.path c.uuid)) := by
    rw [parts_path, same _ (not_on_way _)]
  rw [run_makeDirectory (congrArg fs.change made)]
  dsimp only
  have distinct : parts s.directory ++ [c.uuid.toString ++ ".yaml"] ≠
      parts s.directory ++ [c.uuid.toString ++ ".yaml" ++ ".tmp"] := by
    simpa using temporary_ne_record.symm
  by_cases temporary : fs.find? (parts (s.temporaryPath c.uuid)) = some .directory
  case pos =>
    rw [parts_temporaryPath, ← same _ (not_on_way _), ← parts_temporaryPath] at temporary
    rw [run_write (meansDirectory_temporaryPath s c.uuid)
      (congrArg fs₁.change (write_error temporary c.render))]
    exact ⟨_, fs₁, rfl, kept⟩
  have record : fs.find? (parts (s.path c.uuid)) = some .directory :=
    Classical.not_not.1 fun file => h ⟨way, file, temporary⟩
  rw [parts_path, ← same _ (not_on_way _), ← find?_put_of_ne distinct (.file c.render),
    ← parts_path] at record
  rw [parts_temporaryPath, ← same _ (not_on_way _)] at temporary
  have written := write_ok (by rw [List.dropLast_concat, there]) temporary c.render
  have left : (fs₁.put (parts s.directory ++ [c.uuid.toString ++ ".yaml" ++ ".tmp"])
      (.file c.render)).find? (parts s.directory ++ [c.uuid.toString ++ ".yaml" ++ ".tmp"]) =
        some (.file c.render) := find?_put_self (by simp) _
  rw [← parts_temporaryPath] at written left
  rw [run_write (meansDirectory_temporaryPath s c.uuid) (congrArg fs₁.change written)]
  dsimp only
  rw [← parts_temporaryPath] at record
  rw [run_rename (congrArg (FileSystem.change _) (rename_error left record))]
  refine ⟨_, _, rfl, ?_⟩
  rw [← kept, parts_temporaryPath, parts_path]
  exact find?_put_of_ne distinct _

theorem run_write_error {c : Cluster} (h : ¬ s.Usable c.uuid fs) :
    (FileSystem.run (s.write c) fs).1 ≠ .ok () := by
  obtain ⟨e, fs', refused, -⟩ := run_write_refused h
  rw [refused]
  nofun

theorem run_load {text : String} (h : fs.find? (parts (s.path id)) = some (.file text))
    {c : Cluster} (read : Cluster.read? text = some c) :
    FileSystem.run (s.load id) fs = (.ok c, fs) := by
  rw [load, run_read (meansDirectory_path s id) (read_ok h)]
  dsimp only
  rw [read]
  rfl

/-- Loading changes nothing. -/
theorem run_load_state (s : Store) (id : Uuid) (fs : FileSystem) :
    (FileSystem.run (s.load id) fs).2 = fs := by
  rw [load, run_read (meansDirectory_path s id) rfl]
  match fs.read (parts (s.path id)) with
  | .error .missing | .error .other => rfl
  | .ok text =>
    dsimp only
    cases Cluster.read? text <;> rfl

theorem run_saveNodeGroup {c : Cluster} (loaded : (FileSystem.run (s.load id) fs).1 = .ok c)
    (now : Timestamp) (g : NodeGroup) :
    FileSystem.run (s.saveNodeGroup now id g) fs =
      FileSystem.run (s.save now (c.withNodeGroup g)) fs := by
  rw [saveNodeGroup, Program.bind_eq, FileSystem.run, Program.run_bind]
  rw [FileSystem.run] at loaded
  have unchanged := run_load_state s id fs
  rw [FileSystem.run] at unchanged
  rw [loaded, unchanged, FileSystem.run]

/-- A record that is saved is loaded again, with the time of the save; and it is saved if and only
if nothing stands in its way. -/
theorem load_saved (s : Store) {now : Timestamp} (valid : now.Valid) (c : Cluster)
    (fs : FileSystem) :
    ((FileSystem.run (s.save now c) fs).1 = .ok () ↔ s.Usable c.uuid fs) ∧
      (s.Usable c.uuid fs →
        (FileSystem.run (s.load c.uuid) (FileSystem.run (s.save now c) fs).2).1 =
          .ok { c with updatedAt := some now }) := by
  rw [save]
  refine ⟨⟨?_, ?_⟩, ?_⟩
  · intro saved
    exact Classical.not_not.1 fun unusable =>
      run_write_error (c := { c with updatedAt := some now }) unusable saved
  · intro usable
    obtain ⟨fs', saved, -, -⟩ := run_write_ok (c := { c with updatedAt := some now }) usable
    rw [saved]
  · intro usable
    obtain ⟨fs', saved, written, -⟩ :=
      run_write_ok (c := { c with updatedAt := some now }) usable
    have read := Cluster.read?_render { c with updatedAt := some now } (by rintro t ⟨⟩; exact valid)
    rw [saved, run_load written read]

theorem load_saved_sample :
    let s : Store := ⟨"clusters"⟩
    let now : Timestamp := ⟨2024, 2, 29, 23, 59, 60, 5⟩
    let c := { Cluster.sample .nil with name := " null: #\n", keypair := some "0x1F" }
    now.Valid ∧ s.Usable c.uuid {} ∧ (FileSystem.run (s.save now c) {}).1 = .ok () ∧
      (FileSystem.run (s.load c.uuid) (FileSystem.run (s.save now c) {}).2).1 =
        .ok { c with updatedAt := some now } := by
  intro s now c
  have valid : now.Valid := by decide
  have usable := usable_empty s c.uuid
  obtain ⟨saves, loads⟩ := load_saved s valid c {}
  exact ⟨valid, usable, saves.2 usable, loads usable⟩

end Store

end ClusterLifecycle
