import ClusterLifecycle.Proofs.Separation
import Mathlib.Data.List.Basic

/-!
The list of the records in a directory.

* `FileSystem.names`: the names in a directory, and what placing and erasing an entry does to them;
* `Files.stem_extension`: a record file is named by its identity, a temporary file by none;
* `Store.run_list`: the list of the records is read off the identities in the directory and what is
  loaded under them.
-/

namespace ClusterLifecycle

open FileSystem

namespace FileSystem

variable {fs fs' later : FileSystem} {place at_ : List String} {name : String}

/-- The last part of a path, if the rest of it is the directory. -/
def nameIn (place at_ : List String) : Option String :=
  if at_.dropLast = place then at_.getLast? else none

/-- The names in a directory, oldest first. -/
def names (fs : FileSystem) (place : List String) : List String :=
  fs.entries.filterMap fun entry => nameIn place entry.1

theorem list_ok (h : fs.find? place = some .directory) : fs.list place = .ok (fs.names place) := by
  rw [list, h]
  rfl

theorem nameIn_eq_some : nameIn place at_ = some name ↔ at_ = place ++ [name] := by
  rw [nameIn]
  constructor
  · intro h
    split at h
    case isTrue inside => rw [← inside, List.dropLast_append_getLast? name (Option.mem_def.2 h)]
    case isFalse => cases h
  · rintro rfl
    rw [List.dropLast_concat, if_pos rfl, List.getLast?_concat]

theorem nameIn_self (place : List String) (name : String) :
    nameIn place (place ++ [name]) = some name :=
  nameIn_eq_some.2 rfl

/-- No place on the way to a directory is in it. -/
theorem nameIn_above (above : at_ <+: place) : nameIn place at_ = none := by
  refine Option.eq_none_iff_forall_not_mem.2 fun name inside => ?_
  have longer := (nameIn_eq_some.1 inside ▸ above).length_le
  rw [List.length_append, List.length_singleton] at longer
  omega

theorem mem_names : name ∈ fs.names place ↔ (fs.find? (place ++ [name])).isSome := by
  rw [find?_of_ne_nil (by simp), List.lookup_isSome_iff, names, List.mem_filterMap]
  refine exists_congr fun entry => and_congr_right fun _ => ?_
  rw [nameIn_eq_some, beq_iff_eq, eq_comm]

theorem names_put_there (there : (fs.find? at_).isSome) (e : FileEntry) (place : List String) :
    (fs.put at_ e).names place = fs.names place := by
  rw [put, if_pos there, names, List.filterMap_map, names]
  refine List.filterMap_congr fun entry _ => ?_
  obtain ⟨p, old⟩ := entry
  simp only [Function.comp_apply]
  split <;> rfl

theorem names_put_new (absent : fs.find? at_ = none) (e : FileEntry) (place : List String) :
    (fs.put at_ e).names place = fs.names place ++ (nameIn place at_).toList := by
  rw [put, if_neg (by simp [absent]), names, List.filterMap_append, List.filterMap_cons, names]
  dsimp only
  cases nameIn place at_ <;> rfl

theorem names_put_of_none (outside : nameIn place at_ = none) (e : FileEntry) :
    (fs.put at_ e).names place = fs.names place := by
  cases found : fs.find? at_ with
  | some old => exact names_put_there (by simp [found]) e place
  | none => simp [names_put_new found e place, outside]

theorem names_erase (fs : FileSystem) (place : List String) (name : String) :
    (fs.erase (place ++ [name])).names place = (fs.names place).filter (· ≠ name) := by
  rw [erase, names, names, List.filterMap_filter, List.filter_filterMap]
  refine List.filterMap_congr fun entry _ => ?_
  by_cases mine : entry.1 = place ++ [name]
  · simp [mine, nameIn_self, Option.filter]
  · cases inside : nameIn place entry.1 with
    | none => simp [mine]
    | some other =>
      have apart : other ≠ name := by
        rintro rfl
        exact mine (nameIn_eq_some.1 inside)
      simp [mine, apart, Option.filter]

/-- Where a directory is made no file comes or goes, the way is there, and nothing else changes. -/
theorem found_of_makeDirectory (made : fs.makeDirectory place = .ok fs') :
    (∀ other text, fs'.find? other = some (.file text) ↔ fs.find? other = some (.file text)) ∧
      (∀ before, before <+: place → fs'.find? before = some .directory) ∧
      ∀ other, ¬other <+: place → fs'.find? other = fs.find? other := by
  have clear (before : List String) (above : before <+: place) : fs.Clear before := by
    refine Classical.not_not.1 fun file => ?_
    rw [makeDirectory_error above file] at made
    cases made
  obtain ⟨later, again, there, same⟩ := makeDirectory_ok clear
  rw [made] at again
  cases again
  refine ⟨fun other text => ?_, there, same⟩
  by_cases above : other <+: place
  · exact iff_of_false (by simp [there other above]) (clear other above text)
  · rw [same other above]

theorem names_makeOne (outside : nameIn place at_ = none) (made : fs.makeOne at_ = .ok later) :
    later.names place = fs.names place := by
  rw [makeOne] at made
  split at made
  · cases made
  · cases made
    rfl
  · cases made
    exact names_put_of_none outside .directory

/-- Making a directory on the way to another leaves the names in that one as they were. -/
theorem names_makeDirectory (above : at_ <+: place) (made : fs.makeDirectory at_ = .ok later) :
    later.names place = fs.names place := by
  have outside : ∀ before ∈ way at_, nameIn place before = none :=
    fun before mem => nameIn_above ((mem_way.1 mem).trans above)
  rw [makeDirectory] at made
  generalize way at_ = places at outside made
  induction places generalizing fs with
  | nil =>
    cases made
    rfl
  | cons first rest ih =>
    obtain ⟨here, others⟩ := List.forall_mem_cons.1 outside
    rw [List.foldlM_cons] at made
    cases one : fs.makeOne first with
    | error fault =>
      rw [one] at made
      cases made
    | ok next =>
      rw [one] at made
      exact (ih others made).trans (names_makeOne here one)

end FileSystem

namespace Files

/-- The last extension is taken off, whatever stands before it. -/
theorem stem_extension {name extension : String} (filled : name ≠ "")
    (plain : '.' ∉ extension.toList) : stem (name ++ "." ++ extension) = name := by
  have reversed : (name ++ "." ++ extension).toList.reverse =
      extension.toList.reverse ++ '.' :: name.toList.reverse := by simp
  have before : name.toList.reverse.isEmpty = false := by simpa using filled
  rw [stem, reversed, Text.splitAtFirst_append (by simpa using plain)]
  dsimp only
  rw [before, if_neg Bool.false_ne_true, List.reverse_reverse, String.ofList_toList]

end Files

namespace Uuid

open Text

/-- No spelling of an identity is that long. -/
theorem ofString?_of_length {text : String} (length : text.length = 41) :
    ofString? text = none := by
  have length : text.toList.length = 41 := by rw [String.length_toList, length]
  rw [ofString?, ofList?, length]
  simp only [Nat.reduceEqDiff, ↓reduceIte, false_and]
  cases dropped : dropStart? "urn:uuid:".toList text.toList with
  | none => rfl
  | some rest =>
    have short : rest.length ≠ 36 := by
      intro long
      rw [Text.eq_append_of_dropStart? dropped, List.length_append, long] at length
      cases length
    rw [Option.bind_some, ofHyphenated?, if_neg (by simp [short])]

end Uuid

namespace Store

variable {s : Store} {fs fs' : FileSystem} {id : Uuid}

theorem stem_record (id : Uuid) : Files.stem (id.toString ++ ".yaml") = id.toString := by
  have filled : id.toString ≠ "" := by
    intro empty
    have length := id.length_toString
    rw [empty] at length
    cases length
  have dotted : ".yaml" = "." ++ "yaml" := rfl
  rw [dotted, ← String.append_assoc, Files.stem_extension filled (by decide)]

theorem stem_temporary (id : Uuid) :
    Files.stem (id.toString ++ ".yaml" ++ ".tmp") = id.toString ++ ".yaml" := by
  have dotted : ".tmp" = "." ++ "tmp" := rfl
  rw [dotted, ← String.append_assoc, Files.stem_extension (by simp) (by decide)]

theorem ofString?_stem_record (id : Uuid) :
    Uuid.ofString? (Files.stem (id.toString ++ ".yaml")) = some id := by
  rw [stem_record, Uuid.ofString?_toString]

theorem ofString?_stem_temporary (id : Uuid) :
    Uuid.ofString? (Files.stem (id.toString ++ ".yaml" ++ ".tmp")) = none := by
  have length : (id.toString ++ ".yaml").length = 41 := by
    rw [String.length_append, Uuid.length_toString]
    rfl
  rw [stem_temporary, Uuid.ofString?_of_length length]

theorem identities_records (ids : List Uuid) :
    identities (ids.map fun id => id.toString ++ ".yaml") = ids := by
  induction ids with
  | nil => rfl
  | cons id rest ih =>
    rw [identities] at ih ⊢
    rw [List.map_cons, List.filterMap_cons, ofString?_stem_record, ih]

/-- What is on the way to the directory is not in it. -/
theorem above_ne {before : List String} (above : before <+: parts s.directory) (name : String) :
    before ≠ parts s.directory ++ [name] := by
  rintro rfl
  exact not_on_way name above

theorem parts_path_injective {id id' : Uuid} (same : parts (s.path id) = parts (s.path id')) :
    id = id' := by
  rw [parts_path, parts_path] at same
  have names := List.singleton_inj.1 (List.append_cancel_left same)
  exact Uuid.toString_injective ((String.append_left_inj _).1 names)

/-- No record is named as a temporary file is. -/
theorem temporary_unnamed (id id' : Uuid) :
    id.toString ++ ".yaml" ++ ".tmp" ≠ id'.toString ++ ".yaml" := by
  intro same
  have lengths := congrArg String.length same
  simp [String.length_append, Uuid.length_toString] at lengths

/-- What is loaded under an identity. -/
abbrev loaded (s : Store) (fs : FileSystem) (id : Uuid) : Result Cluster :=
  (FileSystem.run (s.load id) fs).1

/-- The list of all records. -/
abbrev listed (s : Store) (fs : FileSystem) : Result (List Cluster) :=
  (FileSystem.run s.list fs).1

/-- The identities in the directory; none where the directory cannot be read. -/
def roster (s : Store) (fs : FileSystem) : Option (List Uuid) :=
  match (FileSystem.answer (.list s.directory) fs).1 with
  | .ok names => some (identities names)
  | .error .missing => some []
  | .error .other => none

theorem run_loadAll (s : Store) (fs : FileSystem) (ids : List Uuid) :
    FileSystem.run (s.loadAll ids) fs = (ids.mapM (s.loaded fs), fs) := by
  induction ids with
  | nil => rfl
  | cons id rest ih =>
    have first : (s.load id).run FileSystem.answer fs = (s.loaded fs id, fs) :=
      Prod.ext rfl (run_load_state s id fs)
    rw [FileSystem.run] at ih
    rw [loadAll, Program.bind_eq, FileSystem.run, Program.run_bind, first, List.mapM_cons]
    dsimp only
    cases s.loaded fs id with
    | error e => rfl
    | ok c =>
      dsimp only
      rw [Program.bind_eq, Program.run_bind, ih]
      cases rest.mapM (s.loaded fs) <;> rfl

/-- Records in ascending order of their names, unless one could not be loaded. -/
def sorted (records : Result (List Cluster)) : Result (List Cluster) :=
  records.map fun clusters => clusters.mergeSort fun a b => a.name ≤ b.name

theorem sorted_nil (loads : Uuid → Result Cluster) : sorted (List.mapM loads []) = .ok [] := by
  rw [List.mapM_nil]
  exact congrArg Except.ok List.mergeSort_nil

theorem pairwise_byName (clusters : List Cluster) :
    (clusters.mergeSort fun a b => a.name ≤ b.name).Pairwise fun a b => a.name ≤ b.name := by
  have transitive (a b c : Cluster) (h : decide (a.name ≤ b.name))
      (h' : decide (b.name ≤ c.name)) : decide (a.name ≤ c.name) = true :=
    decide_eq_true (String.le_trans (of_decide_eq_true h) (of_decide_eq_true h'))
  have total (a b : Cluster) : (decide (a.name ≤ b.name) || decide (b.name ≤ a.name)) = true := by
    simpa using String.le_total a.name b.name
  exact (List.pairwise_mergeSort transitive total clusters).imp of_decide_eq_true

/-- Sorting puts in order what has been loaded, and neither adds nor drops anything. -/
theorem sorted_ok {records : Result (List Cluster)} {clusters : List Cluster}
    (h : sorted records = .ok clusters) :
    ∃ found, records = .ok found ∧ clusters.Perm found ∧
      clusters.Pairwise fun a b => a.name ≤ b.name := by
  cases records with
  | error e => cases h
  | ok found =>
    cases h
    exact ⟨found, rfl, List.mergeSort_perm found _, pairwise_byName found⟩

/-- The list is made of what is loaded under the identities in the directory. -/
theorem run_list (s : Store) (fs : FileSystem) :
    FileSystem.run s.list fs =
      ((s.roster fs).elim (.error (.persistence s.directory Error.foreign)) fun ids =>
        sorted (ids.mapM (s.loaded fs)), fs) := by
  have asked : (Files.list s.directory).run FileSystem.answer fs =
      ((FileSystem.answer (.list s.directory) fs).1, fs) := rfl
  rw [list, Program.bind_eq, FileSystem.run, Program.run_bind, asked, roster]
  dsimp only
  generalize (FileSystem.answer (.list s.directory) fs).1 = found
  cases found with
  | ok names =>
    have all := run_loadAll s fs (identities names)
    rw [FileSystem.run] at all
    dsimp only
    rw [Program.bind_eq, Program.run_bind, all]
    rfl
  | error fault =>
    cases fault with
    | missing =>
      dsimp only
      rw [Option.elim_some, sorted_nil]
      rfl
    | other => rfl

/-- What is in the directory of the records is there only with the directory. -/
def Housed (s : Store) (fs : FileSystem) : Prop :=
  ∀ name, (fs.find? (parts s.directory ++ [name])).isSome →
    fs.find? (parts s.directory) = some .directory

theorem roster_empty (empty : s.directory = "") (fs : FileSystem) : s.roster fs = some [] := by
  rw [roster, FileSystem.answer, empty]
  rfl

theorem listed_empty (empty : s.directory = "") (fs : FileSystem) : s.listed fs = .ok [] := by
  rw [listed, run_list, roster_empty empty, Option.elim_some, sorted_nil]

theorem answer_list (filled : s.directory ≠ "") (fs : FileSystem) :
    (FileSystem.answer (.list s.directory) fs).1 = fs.list (parts s.directory) :=
  if_neg filled

theorem roster_directory (filled : s.directory ≠ "")
    (here : fs.find? (parts s.directory) = some .directory) :
    s.roster fs = some (identities (fs.names (parts s.directory))) := by
  rw [roster, answer_list filled, list_ok here]

/-- Where no file is in the way the roster is read off the names, directory or not. -/
theorem roster_open (filled : s.directory ≠ "") (way : s.Open fs) (housed : s.Housed fs) :
    s.roster fs = some (identities (fs.names (parts s.directory))) := by
  match found : fs.find? (parts s.directory) with
  | some .directory => exact roster_directory filled found
  | some (.file text) => exact absurd found (way _ (List.prefix_refl _) text)
  | none =>
    have vacant : fs.names (parts s.directory) = [] := by
      refine List.eq_nil_iff_forall_not_mem.2 fun name inside => ?_
      rw [housed name (mem_names.1 inside)] at found
      cases found
    have free : fs.blocked (parts s.directory) = false := by
      refine Bool.eq_false_iff.2 fun blocked => ?_
      obtain ⟨n, -, file⟩ := List.any_eq_true.1 blocked
      have clear := way _ (List.take_prefix n (parts s.directory))
      split at file
      case h_1 text there => exact clear text there
      case h_2 => cases file
    have missing : fs.list (parts s.directory) = .error .missing := by
      rw [FileSystem.list, found, absence, free]
      rfl
    rw [roster, answer_list filled, missing, vacant]
    rfl

/-- What a roster is read off. -/
theorem roster_congr (here : fs.find? (parts s.directory) = fs'.find? (parts s.directory))
    (blocked : fs.blocked (parts s.directory) = fs'.blocked (parts s.directory))
    (known : identities (fs.names (parts s.directory)) =
      identities (fs'.names (parts s.directory))) : s.roster fs = s.roster fs' := by
  by_cases filled : s.directory = ""
  · rw [roster_empty filled, roster_empty filled]
  match found : fs.find? (parts s.directory) with
  | some .directory =>
    rw [roster_directory filled found, known, roster_directory filled (here ▸ found)]
  | some (.file text) =>
    rw [roster, roster, answer_list filled, answer_list filled, FileSystem.list, FileSystem.list,
      ← here, found]
  | none =>
    rw [roster, roster, answer_list filled, answer_list filled, FileSystem.list, FileSystem.list,
      ← here, found, absence, absence, blocked]

end Store

end ClusterLifecycle
