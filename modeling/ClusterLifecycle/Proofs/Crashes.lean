import ClusterLifecycle.Proofs.Runs
import ClusterLifecycle.Proofs.Saving

/-!
Saves that are cut off.

* `FileSystem.Torn`: what a file request may come to on a machine that may fail;
* `Store.alike_temporary`, `Store.roster_temporary`: a temporary file shows in no record and in no
  list;
* `Store.ensures_write`: up to its last step a write shows nowhere, and after it all is done;
* `Saving.crash_harmless`: wherever a save is cut off, each record is as it was or as it was to be.
-/

namespace ClusterLifecycle

open FileSystem Program

/-- The answer of a file system that does nothing. -/
def FileRequest.refuse (fault : FileFault) : (q : FileRequest) → q.Answer
  | present _ => false
  | read _ | list _ => .error fault
  | write .. | rename .. | remove _ | makeDirectory _ => .error fault

/-- What a file request may come to. It is answered, or fails with no effect or all of it; a text
may be written in part, and only the first directories on the way may be made. -/
inductive FileSystem.Torn : Conduct fileInterface FileSystem
  | answered (q : FileRequest) (fs : FileSystem) : Torn q fs (answer q fs).1 (answer q fs).2
  | refused (q : FileRequest) (fault : FileFault) (fs : FileSystem) : Torn q fs (q.refuse fault) fs
  | lost (q : FileRequest) (fault : FileFault) (fs : FileSystem) :
      Torn q fs (q.refuse fault) (answer q fs).2
  /-- The first part of the text is left, or anything else. -/
  | cutOff (path text left : String) (fault : FileFault) (fs : FileSystem) :
      Torn (.write path text) fs (.error fault) (answer (.write path left) fs).2
  | halfMade (path : String) (before : List String) (fault : FileFault) (fs : FileSystem)
      (above : before <+: parts path) :
      Torn (.makeDirectory path) fs (.error fault) (fs.change (fs.makeDirectory before)).2

namespace FileSystem

variable {fs fs' : FileSystem} {place : List String}

theorem blocked_congr (files : ∀ before text, before <+: place →
      (fs'.find? before = some (.file text) ↔ fs.find? before = some (.file text))) :
    fs.blocked place = fs'.blocked place := by
  refine congrArg (List.any _) (funext fun n => ?_)
  have same := fun text => files _ text (List.take_prefix n place)
  match found : fs.find? (place.take n), found' : fs'.find? (place.take n) with
  | some (.file text), _ => rw [(same text).2 found] at found'; rw [← found']
  | _, some (.file text) => rw [(same text).1 found'] at found; rw [← found]
  | some .directory, some .directory | some .directory, none | none, some .directory
  | none, none => rfl

/-- A change takes place and is reported so, or it fails and there is none. -/
theorem change_cases (fs : FileSystem) (result : Except FileFault FileSystem) :
    ((fs.change result).2 = fs ∨ result = .ok (fs.change result).2) ∧
      ((fs.change result).1 = .ok () → result = .ok (fs.change result).2) := by
  cases result with
  | ok later => exact ⟨.inr rfl, fun _ => rfl⟩
  | error fault => exact ⟨.inl rfl, by rintro ⟨⟩⟩

variable {path text source target : String} {a : Except FileFault Unit}

theorem Torn.makeDirectory (h : Torn (.makeDirectory path) fs a fs') :
    (fs' = fs ∨ ∃ before, before <+: parts path ∧ fs.makeDirectory before = .ok fs') ∧
      (a = .ok () → fs.makeDirectory (parts path) = .ok fs') := by
  obtain ⟨went, done⟩ := fs.change_cases (fs.makeDirectory (parts path))
  have whole : (fs.change (fs.makeDirectory (parts path))).2 = fs ∨ ∃ before,
      before <+: parts path ∧ fs.makeDirectory before =
        .ok (fs.change (fs.makeDirectory (parts path))).2 :=
    went.imp_right fun made => ⟨parts path, List.prefix_refl _, made⟩
  cases h with
  | answered => exact ⟨whole, done⟩
  | refused => exact ⟨.inl rfl, by rintro ⟨⟩⟩
  | lost => exact ⟨whole, by rintro ⟨⟩⟩
  | halfMade _ before fault _ above =>
    exact ⟨(fs.change_cases _).1.imp_right fun made => ⟨before, above, made⟩, by rintro ⟨⟩⟩

theorem Torn.write (proper : meansDirectory path = false) (h : Torn (.write path text) fs a fs') :
    (fs' = fs ∨ ∃ left, fs.write (parts path) left = .ok fs') ∧
      (a = .ok () → fs.write (parts path) text = .ok fs') := by
  have plain (left : String) : answer (.write path left) fs =
      fs.change (fs.write (parts path) left) := by
    rw [answer, proper, if_neg Bool.false_ne_true]
  have partly (left : String) : (answer (.write path left) fs).2 = fs ∨
      ∃ left', fs.write (parts path) left' = .ok (answer (.write path left) fs).2 := by
    rw [plain]
    exact (fs.change_cases _).1.imp_right fun written => ⟨left, written⟩
  cases h with
  | answered =>
    refine ⟨partly text, ?_⟩
    rw [plain]
    exact (fs.change_cases _).2
  | refused => exact ⟨.inl rfl, by rintro ⟨⟩⟩
  | lost => exact ⟨partly text, by rintro ⟨⟩⟩
  | cutOff _ _ left => exact ⟨partly left, by rintro ⟨⟩⟩

theorem Torn.read {a : Except FileFault String} (proper : meansDirectory path = false)
    (h : Torn (.read path) fs a fs') :
    fs' = fs ∧ ∀ text, a = .ok text → fs.read (parts path) = .ok text := by
  cases h with
  | answered =>
    refine ⟨rfl, fun text read => ?_⟩
    rw [answer, proper] at read
    exact read
  | refused | lost => exact ⟨rfl, by rintro _ ⟨⟩⟩

theorem Torn.rename (h : Torn (.rename source target) fs a fs') :
    (fs' = fs ∨ fs.rename (parts source) (parts target) = .ok fs') ∧
      (a = .ok () → fs.rename (parts source) (parts target) = .ok fs') := by
  obtain ⟨went, done⟩ := fs.change_cases (fs.rename (parts source) (parts target))
  cases h with
  | answered => exact ⟨went, done⟩
  | refused => exact ⟨.inl rfl, by rintro ⟨⟩⟩
  | lost => exact ⟨went, by rintro ⟨⟩⟩

theorem ensures_read {α : Type} {T : Conduct fileInterface FileSystem} {Q : α → FileSystem → Prop}
    {next : Except FileFault String → FileProgram α} (proper : meansDirectory path = false)
    (stays : ∀ a, T (.read path) fs a fs)
    (rest : ∀ a, (∀ text, a = .ok text → fs.read (parts path) = .ok text) →
      (next a).Ensures Torn T Q fs) : (Files.read path >>= next).Ensures Torn T Q fs := by
  intro a fs' torn
  obtain ⟨rfl, reads⟩ := Torn.read proper torn
  exact ⟨stays a, rest a reads⟩

end FileSystem

namespace Store

variable {s : Store} {fs fs' fs'' : FileSystem} {id id' : Uuid}

/-- The same records are shown, and the same are listed. -/
structure Indistinct (s : Store) (fs fs' : FileSystem) : Prop where
  alike : ∀ id, s.Alike id fs fs'
  roster : s.Housed fs → s.roster fs = s.roster fs'

theorem Indistinct.rfl : s.Indistinct fs fs :=
  ⟨fun _ => ⟨.rfl, Eq.refl _, .rfl⟩, fun _ => Eq.refl _⟩

/-- Making a directory on the way to the records, or all the way, shows nowhere. -/
theorem indistinct_makeDirectory {before : List String} (above : before <+: parts s.directory)
    (made : fs.makeDirectory before = .ok fs') : s.Indistinct fs fs' := by
  obtain ⟨files, there, same⟩ := found_of_makeDirectory made
  have off_way (name : String) : fs'.find? (parts s.directory ++ [name]) =
      fs.find? (parts s.directory ++ [name]) :=
    same _ fun on => not_on_way name (on.trans above)
  have clear (place : List String) : fs.Clear place ↔ fs'.Clear place :=
    forall_congr' fun text => not_congr (files place text).symm
  have way : s.Open fs ↔ s.Open fs' := forall₂_congr fun place _ => clear place
  constructor
  · intro id
    refine ⟨way, ?_, ?_⟩
    · rw [parts_path, off_way]
    · rw [parts_temporaryPath, off_way]
  · intro housed
    have names := names_makeDirectory above made
    by_cases whole : parts s.directory <+: before
    · -- The directory itself is there now; where it was not, it had no names.
      by_cases filled : s.directory = ""
      · rw [roster_empty filled, roster_empty filled]
      have now_there := there _ whole
      have opened : s.Open fs := way.2 fun place on text => by
        rw [there place (on.trans whole)]
        nofun
      rw [roster_open filled opened housed, roster_directory filled now_there, names]
    · refine roster_congr (same _ whole).symm ?_ (congrArg identities names.symm)
      exact blocked_congr fun other text _ => files other text

/-- No record is where a temporary file is. -/
theorem temporary_ne_path (s : Store) (id id' : Uuid) :
    parts (s.path id) ≠ parts (s.temporaryPath id') := by
  rw [parts_path, parts_temporaryPath]
  intro same
  exact temporary_unnamed id' id (List.singleton_inj.1 (List.append_cancel_left same)).symm

/-- A temporary file, whatever its text, shows nowhere. -/
theorem indistinct_temporary (id : Uuid) (text : String)
    (free : fs.find? (parts (s.temporaryPath id)) ≠ some .directory) :
    (∀ id', s.Alike id' fs (fs.put (parts (s.temporaryPath id)) (.file text))) ∧
      s.roster fs = s.roster (fs.put (parts (s.temporaryPath id)) (.file text)) := by
  have above (before : List String) (h : before <+: parts s.directory) :
      before ≠ parts (s.temporaryPath id) :=
    parts_temporaryPath s id ▸ above_ne h _
  have same (place : List String) (other : place ≠ parts (s.temporaryPath id)) :
      fs.find? place = (fs.put (parts (s.temporaryPath id)) (.file text)).find? place :=
    (find?_put_of_ne other _).symm
  constructor
  · refine fun id' => ⟨?_, same _ (temporary_ne_path s id' id), ?_⟩
    · refine forall₂_congr fun before h => ?_
      rw [Clear, Clear, same before (above before h)]
    · by_cases mine : parts (s.temporaryPath id') = parts (s.temporaryPath id)
      · rw [mine, find?_put_self (parts_temporaryPath_ne_nil s id)]
        exact iff_of_false free (by rintro ⟨⟩)
      · rw [same _ mine]
  · refine roster_congr (same _ (above _ (List.prefix_refl _))) ?_ ?_
    · refine blocked_congr fun before text' h => ?_
      rw [same before (above before h)]
    · rw [parts_temporaryPath]
      cases found : fs.find? (parts s.directory ++ [id.toString ++ ".yaml" ++ ".tmp"]) with
      | some old => rw [names_put_there (by simp [found])]
      | none =>
        rw [names_put_new found, nameIn_self, identities, identities, List.filterMap_append]
        simp [ofString?_stem_temporary]

/-- Where a write stands when it is cut off: all is as it was, or all is done. -/
def Midway (s : Store) (c : Cluster) (fs fs' : FileSystem) : Prop :=
  s.Indistinct fs fs' ∨ FileSystem.run (s.write c) fs = (.ok (), fs')

/-- However its requests come out, a write is all done or shows nowhere. -/
theorem ensures_write (s : Store) (c : Cluster) (fs : FileSystem) :
    (s.write c).Ensures Torn (fun _ _ _ => s.Midway c fs) (fun _ => s.Midway c fs) fs := by
  rw [write]
  intro a fs₁ torn
  obtain ⟨partly, made⟩ := Torn.makeDirectory torn
  have first : s.Indistinct fs fs₁ := by
    rcases partly with rfl | ⟨before, above, made⟩
    · exact .rfl
    · exact indistinct_makeDirectory above made
  refine ⟨.inl first, ?_⟩
  cases a with
  | error fault => exact .inl first
  | ok u =>
    intro a fs₂ torn
    obtain ⟨partly, written⟩ := Torn.write (meansDirectory_temporaryPath s c.uuid) torn
    have second : s.Indistinct fs fs₂ := by
      rcases partly with rfl | ⟨left, written⟩
      · exact first
      · obtain ⟨free, rfl⟩ := eq_put_of_write written
        obtain ⟨alike, roster⟩ := indistinct_temporary c.uuid left free
        exact ⟨fun id => (first.alike id).trans (alike id),
          fun housed => (first.roster housed).trans roster⟩
    refine ⟨.inl second, ?_⟩
    cases a with
    | error fault => exact .inl second
    | ok u =>
      intro a fs₃ torn
      obtain ⟨partly, -⟩ := Torn.rename torn
      have third : s.Midway c fs fs₃ := by
        rcases partly with rfl | renamed
        · exact .inl second
        · exact .inr (run_write_ok_iff.2 ⟨fs₁, fs₂, made rfl, written rfl, renamed⟩)
      refine ⟨third, ?_⟩
      cases a <;> exact third

theorem run_load_text {text : String} (read : fs.read (parts (s.path id)) = .ok text) (c : Cluster)
    (known : Cluster.read? text = some c) : s.loaded fs id = .ok c := by
  rw [loaded, load, run_read (meansDirectory_path s id) read]
  dsimp only
  rw [known]
  rfl

/-- Loading a record changes nothing, however the request comes out. -/
theorem ensures_load (s : Store) (id : Uuid) (fs : FileSystem) :
    (s.load id).Ensures Torn (fun _ _ _ fs' => fs' = fs)
      (fun r fs' => fs' = fs ∧ ∀ c, r = .ok c → s.loaded fs id = .ok c) fs := by
  rw [load]
  refine ensures_read (meansDirectory_path s id) (fun _ => Eq.refl fs) fun a reads => ?_
  cases a with
  | error fault => cases fault <;> exact ⟨Eq.refl fs, fun c h => by cases h⟩
  | ok text =>
    have found := run_load_text (reads text (Eq.refl _))
    dsimp only
    generalize Cluster.read? text = c at found ⊢
    cases c with
    | none => exact ⟨Eq.refl fs, fun c h => by cases h⟩
    | some c =>
      refine ⟨Eq.refl fs, fun c' same => ?_⟩
      cases same
      exact found c (Eq.refl _)

/-- Where the same records are shown the same is loaded and listed. -/
theorem listed_congr (alike : ∀ id, s.Alike id fs fs') (roster : s.roster fs = s.roster fs') :
    s.listed fs = s.listed fs' := by
  have same : s.loaded fs = s.loaded fs' := funext fun id => (alike id).load
  rw [listed, run_list, roster, same, listed, run_list]

/-- What is written leaves every record as usable as it was. -/
theorem usable_of_write {c : Cluster} (done : FileSystem.run (s.write c) fs = (.ok (), fs'))
    (usable : s.Usable id fs) : s.Usable id fs' := by
  by_cases mine : id = c.uuid
  · subst mine
    obtain ⟨later, again, -, still⟩ := run_write_ok usable
    rw [done] at again
    cases again
    exact still
  · have beside := (run_write_beside s c fs).2
    rw [done] at beside
    exact (beside.alike mine).usable usable

/-- A record that has been saved is loaded, and the others are as they were. -/
theorem loaded_of_save {now : Timestamp} (valid : now.Valid) {c : Cluster}
    (done : FileSystem.run (s.save now c) fs = (.ok (), fs')) :
    s.loaded fs' c.uuid = .ok { c with updatedAt := some now } ∧
      ∀ id, id ≠ c.uuid → s.Alike id fs fs' := by
  rw [save] at done
  have usable : s.Usable c.uuid fs := by
    refine Classical.not_not.1 fun unusable => ?_
    exact run_write_error (c := { c with updatedAt := some now }) unusable (by rw [done])
  obtain ⟨later, again, written, -⟩ := run_write_ok (c := { c with updatedAt := some now }) usable
  rw [done] at again
  cases again
  have read := Cluster.read?_render { c with updatedAt := some now } (by rintro t ⟨⟩; exact valid)
  have beside := (run_write_beside s { c with updatedAt := some now } fs).2
  rw [done] at beside
  refine ⟨?_, fun id other => beside.alike other⟩
  rw [loaded, run_load written read]

end Store

namespace Saving

variable {s : Store} {fs fs' : FileSystem} {x : Saving} {now : Timestamp}

/-- Where a save stands when it is cut off: all is as it was, or all is done. -/
def Midway (s : Store) (now : Timestamp) (fs : FileSystem) (x : Saving) (fs' : FileSystem) : Prop :=
  s.Indistinct fs fs' ∨
    ∃ c, x.record (s.loaded fs x.target) = .ok c ∧ FileSystem.run (s.save now c) fs = (.ok (), fs')

/-- A save succeeds where there is a record to write and nothing in its way. -/
theorem run_program_ok_iff : (FileSystem.run (x.program s now) fs).1 = .ok () ↔
    ∃ c, x.record (s.loaded fs x.target) = .ok c ∧ s.Usable c.uuid fs := by
  cases made : x.record (s.loaded fs x.target) with
  | error e =>
    rw [run_program_error now made]
    exact iff_of_false (by rintro ⟨⟩) (by simp)
  | ok c =>
    rw [run_program now made, Store.save]
    constructor
    · intro saved
      refine ⟨c, rfl, Classical.not_not.1 fun unusable => ?_⟩
      exact Store.run_write_error (c := { c with updatedAt := some now }) unusable saved
    · rintro ⟨_, ⟨⟩, usable⟩
      obtain ⟨later, done, -⟩ := Store.run_write_ok (c := { c with updatedAt := some now }) usable
      rw [done]

/-- Where the same records are shown a save is answered the same. -/
theorem answer_congr (alike : ∀ id, s.Alike id fs fs') (x : Saving) (now : Timestamp) :
    (FileSystem.run (x.program s now) fs).1 = (FileSystem.run (x.program s now) fs').1 := by
  have loads : s.loaded fs x.target = s.loaded fs' x.target := (alike x.target).load
  cases made : x.record (s.loaded fs x.target) with
  | error e => rw [run_program_error now made, run_program_error now (loads ▸ made)]
  | ok c =>
    rw [run_program now made, run_program now (loads ▸ made), Store.save]
    exact (Store.Alike.write (c := { c with updatedAt := some now }) (alike c.uuid)).1

/-- However its requests come out, a save is all done or shows nowhere. -/
theorem ensures_program (s : Store) (now : Timestamp) (x : Saving) (fs : FileSystem) :
    (x.program s now).Ensures Torn (fun _ _ _ => x.Midway s now fs) (fun _ => x.Midway s now fs)
      fs := by
  cases x with
  | cluster c =>
    have writes := Store.ensures_write s { c with updatedAt := some now } fs
    have either (fs' : FileSystem) (h : s.Midway { c with updatedAt := some now } fs fs') :
        (cluster c).Midway s now fs fs' := h.imp_right fun done => ⟨c, rfl, done⟩
    exact writes.mono (fun _ _ _ => either) fun _ => either
  | nodeGroup id g =>
    change ((s.load id).bind _).Ensures _ _ _ _
    rw [ensures_bind]
    refine (Store.ensures_load s id fs).mono ?_ ?_
    · rintro _ _ _ fs' rfl
      exact .inl .rfl
    · rintro r fs' ⟨rfl, loads⟩
      cases r with
      | error e => exact .inl .rfl
      | ok c =>
        have writes := Store.ensures_write s
          { c.withNodeGroup g with updatedAt := some now } fs'
        have made : (nodeGroup id g).record (s.loaded fs' id) = .ok (c.withNodeGroup g) := by
          rw [loads c rfl]
          rfl
        have either (fs'' : FileSystem)
            (h : s.Midway { c.withNodeGroup g with updatedAt := some now } fs' fs'') :
            (nodeGroup id g).Midway s now fs' fs'' := h.imp_right fun done => ⟨_, made, done⟩
        exact writes.mono (fun _ _ _ => either) fun _ => either

section
variable (valid : now.Valid) (filed : ∀ c, s.loaded fs x.target = .ok c → c.uuid = x.target)
  (midway : x.Midway s now fs fs')
include valid filed midway

/-- The record that is saved under is as it was or as it was to be, and the others are as they
were. -/
theorem Midway.loaded : (s.loaded fs' x.target = s.loaded fs x.target ∨
      ∃ c, x.record (s.loaded fs x.target) = .ok c ∧
        s.loaded fs' x.target = .ok { c with updatedAt := some now }) ∧
    ∀ id, id ≠ x.target → s.loaded fs' id = s.loaded fs id := by
  rcases midway with same | ⟨c, made, done⟩
  · exact ⟨.inl (same.alike _).load.symm, fun id _ => (same.alike id).load.symm⟩
  · obtain ⟨now_there, others⟩ := Store.loaded_of_save valid done
    have mine := uuid_of_record filed made
    refine ⟨.inr ⟨c, made, ?_⟩, fun id other => (others id (mine ▸ other)).load.symm⟩
    rw [← mine]
    exact now_there

/-- A later save that would have been made before is made now. -/
theorem Midway.saves {y : Saving} {later : Timestamp}
    (before : (FileSystem.run (y.program s later) fs).1 = .ok ()) :
    (FileSystem.run (y.program s later) fs').1 = .ok () := by
  rcases midway with same | ⟨c, made, done⟩
  · rw [← answer_congr same.alike, before]
  obtain ⟨now_there, others⟩ := Store.loaded_of_save valid done
  have named := uuid_of_record filed made
  obtain ⟨d, writes, usable⟩ := run_program_ok_iff.1 before
  rw [run_program_ok_iff]
  by_cases mine : y.target = x.target
  · -- What is to be written now comes from the record that has just been saved.
    obtain ⟨e, writes'⟩ := y.exists_record { c with updatedAt := some now }
    have there : s.loaded fs' y.target = .ok { c with updatedAt := some now } := by
      rw [mine, ← named]
      exact now_there
    have written : d.uuid = y.target :=
      uuid_of_record (fun c loaded => (filed c (mine ▸ loaded)).trans mine.symm) writes
    have writing : e.uuid = y.target := by
      refine uuid_of_record (fun c loaded => ?_) writes'
      cases loaded
      exact named.trans mine.symm
    rw [there]
    exact ⟨e, writes', Store.usable_of_write done (writing.trans written.symm ▸ usable)⟩
  · have unchanged : s.loaded fs' y.target = s.loaded fs y.target :=
      (others _ (named ▸ mine)).load.symm
    rw [unchanged]
    exact ⟨d, writes, Store.usable_of_write done usable⟩

end

/-- A save that is cut off anywhere, with its requests coming out in any way, leaves the record it
was for as it was or as it was to be, and the others as they were. So is the list, and no later save
fails for it. A temporary file that is left behind, whatever its text, makes no difference to what
is loaded, listed and saved. -/
theorem crash_harmless (s : Store) {now : Timestamp} (valid : now.Valid) (x : Saving)
    {fs fs' : FileSystem} {p : FileProgram (Result Unit)}
    (filed : ∀ id c, s.loaded fs id = .ok c → c.uuid = id)
    (cut : Reaches Torn (x.program s now) fs p fs') :
    (s.loaded fs' x.target = s.loaded fs x.target ∨
      ∃ c, x.record (s.loaded fs x.target) = .ok c ∧
        s.loaded fs' x.target = .ok { c with updatedAt := some now }) ∧
    (∀ id, id ≠ x.target → s.loaded fs' id = s.loaded fs id) ∧
    (s.Housed fs → s.listed fs' = s.listed fs ∨
      s.listed fs' = s.listed (FileSystem.run (x.program s now) fs).2) ∧
    (∀ (y : Saving) (later : Timestamp), (FileSystem.run (y.program s later) fs).1 = .ok () →
      (FileSystem.run (y.program s later) fs').1 = .ok ()) ∧
    ∀ id text, fs'.find? (parts (s.temporaryPath id)) ≠ some .directory →
      let left := fs'.put (parts (s.temporaryPath id)) (.file text)
      (∀ other, s.loaded left other = s.loaded fs' other) ∧ s.listed left = s.listed fs' ∧
        ∀ (y : Saving) (later : Timestamp), (FileSystem.run (y.program s later) left).1 =
          (FileSystem.run (y.program s later) fs').1 := by
  have midway : x.Midway s now fs fs' :=
    (ensures_program s now x fs).throughout (.inl .rfl) cut
  obtain ⟨own, others⟩ := Midway.loaded valid (filed x.target) midway
  refine ⟨own, others, ?_, fun y later before => ?_, fun id text free => ?_⟩
  · intro housed
    rcases midway with same | ⟨c, made, done⟩
    · exact .inl (Store.listed_congr same.alike (same.roster housed)).symm
    · rw [run_program now made, done]
      exact .inr rfl
  · exact Midway.saves valid (filed x.target) midway before
  · obtain ⟨alike, roster⟩ := Store.indistinct_temporary id text free
    exact ⟨fun other => (alike other).load.symm, (Store.listed_congr alike roster).symm,
      fun y later => (answer_congr alike y later).symm⟩

theorem crash_harmless_sample :
    let s : Store := ⟨"clusters"⟩
    let now : Timestamp := ⟨2024, 2, 29, 23, 59, 60, 5⟩
    let old := Cluster.sample .nil
    let new := { old with name := "renamed" }
    let fs := (FileSystem.run (s.save now old) {}).2
    now.Valid ∧ (∀ id c, s.loaded fs id = .ok c → c.uuid = id) ∧
      ∃ torn, Reaches Torn ((cluster new).program s now) fs
          (.done (.error (.persistence old.uuid.toString Error.foreign))) torn ∧
        torn.find? (parts (s.temporaryPath .nil)) = some (.file "uuid: 0") ∧
        (s.loaded torn .nil = .ok { old with updatedAt := some now } ∨
          s.loaded torn .nil = .ok { new with updatedAt := some now }) := by
  intro s now old new fs
  have valid : now.Valid := by decide
  have filed : ∀ id c, s.loaded fs id = .ok c → c.uuid = id := fun id c loaded =>
    ((Keeper.keepsApart_files s valid).filed_save (Keeper.filed_empty s now id) old c loaded).1
  obtain ⟨saved, done, -, usable⟩ :=
    Store.run_write_ok (c := { old with updatedAt := some now }) (Store.usable_empty s .nil)
  have stored : fs = saved := congrArg Prod.snd done
  have there : s.loaded fs .nil = .ok { old with updatedAt := some now } :=
    stored ▸ (Store.loaded_of_save (c := old) valid done).1
  obtain ⟨made, making, directory, same⟩ := makeDirectory_ok usable.way
  have free : made.find? (parts (s.temporaryPath .nil)) ≠ some .directory := by
    rw [Store.parts_temporaryPath, same _ (Store.not_on_way _), ← Store.parts_temporaryPath]
    exact usable.temporary
  have parent : made.find? (parts (s.temporaryPath .nil)).dropLast = some .directory := by
    rw [Store.parts_temporaryPath, List.dropLast_concat]
    exact directory _ (List.prefix_refl _)
  have first : Torn (.makeDirectory s.directory) saved (.ok ()) made := by
    have answered := Torn.answered (.makeDirectory s.directory) saved
    rwa [FileSystem.answer, making] at answered
  have second (text : String) : Torn (.write (s.temporaryPath .nil) text) made (.error .other)
      (made.put (parts (s.temporaryPath .nil)) (.file "uuid: 0")) := by
    have cutOff := Torn.cutOff (s.temporaryPath .nil) text "uuid: 0" .other made
    rwa [FileSystem.answer, Store.meansDirectory_temporaryPath, if_neg Bool.false_ne_true,
      write_ok parent free] at cutOff
  have cut : Reaches Torn ((cluster new).program s now) fs
      (.done (.error (.persistence old.uuid.toString Error.foreign)))
      (made.put (parts (s.temporaryPath .nil)) (.file "uuid: 0")) :=
    stored ▸ .on first (.on (second _) (.here _ _))
  refine ⟨valid, filed, _, cut, find?_put_self (Store.parts_temporaryPath_ne_nil s .nil) _, ?_⟩
  rcases (crash_harmless s valid (cluster new) filed cut).1 with before | ⟨c, ⟨⟩, after⟩
  · exact .inl (before.trans there)
  · exact .inr after

end Saving

end ClusterLifecycle
