import ClusterLifecycle.Proofs.Runs
import ClusterLifecycle.Proofs.Saving
import Mathlib.Data.List.Nodup
import Mathlib.Data.Set.List

/-!
The store as a map from identities to records.

* `RecordRequest`, `Store.serve`: what may be asked of a store, and how it answers from its files;
* `RecordMap.Answers`: how a map would answer;
* `Store.Mirrors`: the files hold what the map holds, each under its name and nothing else;
* `Mirrors.serve`, `Mirrors.run`: one request, and a client of many, is answered as the map would;
* `Store.answers_as_map_iff`: so it is in every directory with a name, and in no other.
-/

namespace ClusterLifecycle

open FileSystem Program

/-- What is asked of a store of records. -/
inductive RecordRequest where
  | save (now : { t : Timestamp // t.Valid }) (x : Saving)
  | remove (id : Uuid)
  | load (id : Uuid)
  | list

def RecordRequest.Answer : RecordRequest → Type
  | save .. | remove _ => Result Unit
  | load _ => Result Cluster
  | list => Result (List Cluster)

abbrev recordInterface : Interface := ⟨RecordRequest, RecordRequest.Answer⟩

/-- Answers from the files of the store. -/
def Store.serve (s : Store) : (q : RecordRequest) → FileProgram q.Answer
  | .save now x => x.program s now
  | .remove id => s.remove id
  | .load id => s.load id
  | .list => s.list

/-- Records by their identities. -/
abbrev RecordMap := Uuid → Option Cluster

namespace RecordMap

/-- The map after a save under the identity. -/
def saved (m : RecordMap) (id : Uuid) (now : Timestamp) (c : Cluster) : RecordMap :=
  Function.update m id (some { c with updatedAt := some now })

/-- How a map answers. A group takes the place of the first of its name, or comes last; the order of
records with the same name in a list is left open. -/
inductive Answers : Conduct recordInterface RecordMap
  | cluster (now : { t : Timestamp // t.Valid }) (c : Cluster) (m : RecordMap) :
      Answers (.save now (.cluster c)) m (.ok ()) (m.saved c.uuid now c)
  | replaced (now : { t : Timestamp // t.Valid }) {id : Uuid} {c : Cluster} {g old : NodeGroup}
      {before after : List NodeGroup} (m : RecordMap) (there : m id = some c)
      (split : c.nodeGroups = before ++ old :: after) (same : old.name = g.name)
      (first : ∀ other ∈ before, other.name ≠ g.name) :
      Answers (.save now (.nodeGroup id g)) m (.ok ())
        (m.saved id now { c with nodeGroups := before ++ g :: after })
  | appended (now : { t : Timestamp // t.Valid }) {id : Uuid} {c : Cluster} {g : NodeGroup}
      (m : RecordMap) (there : m id = some c) (new : ∀ other ∈ c.nodeGroups, other.name ≠ g.name) :
      Answers (.save now (.nodeGroup id g)) m (.ok ())
        (m.saved id now { c with nodeGroups := c.nodeGroups ++ [g] })
  | ungrouped (now : { t : Timestamp // t.Valid }) {id : Uuid} (g : NodeGroup) (m : RecordMap)
      (absent : m id = none) :
      Answers (.save now (.nodeGroup id g)) m (.error (.notFound "Cluster" id.toString)) m
  | removed (id : Uuid) (m : RecordMap) :
      Answers (.remove id) m (.ok ()) (Function.update m id none)
  | loaded {id : Uuid} {c : Cluster} (m : RecordMap) (there : m id = some c) :
      Answers (.load id) m (.ok c) m
  | missing {id : Uuid} (m : RecordMap) (absent : m id = none) :
      Answers (.load id) m (.error (.notFound "Cluster" id.toString)) m
  | listed {clusters : List Cluster} (m : RecordMap)
      (sorted : clusters.Pairwise fun a b => a.name ≤ b.name)
      (once : (clusters.map Cluster.uuid).Nodup)
      (all : ∀ c, c ∈ clusters ↔ m c.uuid = some c) :
      Answers .list m (.ok clusters) m

end RecordMap

namespace Cluster

theorem replaceGroup_new {g : NodeGroup} {groups : List NodeGroup}
    (new : ∀ other ∈ groups, other.name ≠ g.name) : replaceGroup g groups = groups ++ [g] := by
  induction groups with
  | nil => rfl
  | cons first rest ih =>
    obtain ⟨here, later⟩ := List.forall_mem_cons.1 new
    rw [replaceGroup, if_neg here, ih later, List.cons_append]

end Cluster

namespace FileSystem

variable {fs : FileSystem} {place at_ : List String}

theorem nodup_names_put (distinct : (fs.names place).Nodup) (e : FileEntry) :
    ((fs.put at_ e).names place).Nodup := by
  cases found : fs.find? at_ with
  | some old => rwa [names_put_there (by simp [found])]
  | none =>
    rw [names_put_new found]
    cases inside : nameIn place at_ with
    | none => simpa
    | some name =>
      have new : name ∉ fs.names place := by
        rw [mem_names, ← nameIn_eq_some.1 inside, found]
        nofun
      rw [Option.toList_some, List.nodup_append]
      refine ⟨distinct, by simp, fun other inside last h => ?_⟩
      rw [List.mem_singleton] at h
      exact fun same => new (h ▸ same ▸ inside)

end FileSystem

namespace Store

variable {s : Store} {fs fs' : FileSystem} {m m' : RecordMap} {id : Uuid} {c : Cluster}

/-- The directory is not there, or is empty, and nothing is in the way of making it. -/
structure Vacant (s : Store) (fs : FileSystem) : Prop where
  way : s.Open fs
  empty : ∀ name, fs.find? (parts s.directory ++ [name]) = none

/-- The files in the directory are those of the records in the map. -/
structure Mirrors (s : Store) (m : RecordMap) (fs : FileSystem) : Prop where
  way : s.Open fs
  housed : s.Housed fs
  distinct : (fs.names (parts s.directory)).Nodup
  records : ∀ id, fs.find? (parts (s.path id)) = (m id).map fun c => .file c.render
  others : ∀ name, (∀ id : Uuid, name ≠ id.toString ++ ".yaml") →
    fs.find? (parts s.directory ++ [name]) = none
  sound : ∀ id c, m id = some c → c.uuid = id ∧ Cluster.read? c.render = some c

theorem Vacant.mirrors (vacant : s.Vacant fs) : s.Mirrors (fun _ => none) fs where
  way := vacant.way
  housed name inside := by
    rw [vacant.empty] at inside
    cases inside
  distinct := by
    have none_there : fs.names (parts s.directory) = [] := by
      refine List.eq_nil_iff_forall_not_mem.2 fun name inside => ?_
      rw [mem_names, vacant.empty] at inside
      cases inside
    rw [none_there]
    exact List.nodup_nil
  records id := by
    rw [parts_path, vacant.empty]
    rfl
  others name _ := vacant.empty name
  sound _ _ := nofun

section
variable (mirrors : s.Mirrors m fs)
include mirrors

theorem Mirrors.loaded (there : m id = some c) : s.loaded fs id = .ok c := by
  have found := mirrors.records id
  rw [there] at found
  rw [Store.loaded, run_load found (mirrors.sound id c there).2]

theorem Mirrors.read_missing (absent : m id = none) :
    fs.read (parts (s.path id)) = .error .missing := by
  have found := mirrors.records id
  rw [absent] at found
  have free : fs.blocked (parts (s.path id)) = false := by
    rw [parts_path, Bool.eq_false_iff]
    exact fun blocked => blocked_iff.1 blocked mirrors.way
  rw [FileSystem.read, found, Option.map_none, absence, free]
  rfl

theorem Mirrors.missing (absent : m id = none) :
    s.loaded fs id = .error (.notFound "Cluster" id.toString) := by
  rw [Store.loaded, load, run_read (meansDirectory_path s id) (mirrors.read_missing absent)]
  rfl

/-- What is left once a record has been written. -/
theorem Mirrors.written {now : Timestamp} (valid : now.Valid) (c : Cluster)
    (done : FileSystem.run (s.write { c with updatedAt := some now }) fs = (.ok (), fs'))
    (there : fs'.find? (parts (s.path c.uuid)) =
      some (.file (Cluster.render { c with updatedAt := some now }))) :
    s.Mirrors (m.saved c.uuid now c) fs' := by
  have beside := (run_write_beside s { c with updatedAt := some now } fs).2
  rw [done] at beside
  constructor
  case way => exact beside.way.1 mirrors.way
  case housed => exact fun _ _ => directory_of_write done
  case distinct =>
    obtain ⟨fs₁, made, rfl⟩ := eq_of_run_write done
    rw [parts_temporaryPath, names_erase]
    refine (nodup_names_put (nodup_names_put ?_ _) _).filter _
    rw [names_makeDirectory (List.prefix_refl _) made]
    exact mirrors.distinct
  case records =>
    intro id
    by_cases mine : id = c.uuid
    · rw [mine, RecordMap.saved, Function.update_self]
      exact there
    · rw [RecordMap.saved, Function.update_of_ne mine, ← mirrors.records id]
      exact (beside.alike mine).record.symm
  case others =>
    intro name unnamed
    by_cases temporary : name = c.uuid.toString ++ ".yaml" ++ ".tmp"
    · obtain ⟨fs₁, -, rfl⟩ := eq_of_run_write done
      rw [temporary, ← parts_temporaryPath]
      exact find?_erase_self (parts_temporaryPath_ne_nil s c.uuid)
    · rw [← beside.others name (unnamed c.uuid) temporary]
      exact mirrors.others name unnamed
  case sound =>
    intro id c' there
    by_cases mine : id = c.uuid
    · rw [mine, RecordMap.saved, Function.update_self] at there
      cases there
      exact ⟨mine.symm, Cluster.read?_render _ (by rintro t ⟨⟩; exact valid)⟩
    · rw [RecordMap.saved, Function.update_of_ne mine] at there
      exact mirrors.sound id c' there

/-- A save under the identity of a record puts the record in the map. -/
theorem Mirrors.save {now : Timestamp} (valid : now.Valid) (c : Cluster) :
    ∃ fs', FileSystem.run (s.save now c) fs = (.ok (), fs') ∧
      s.Mirrors (m.saved c.uuid now c) fs' := by
  have usable : s.Usable { c with updatedAt := some now }.uuid fs := by
    refine ⟨mirrors.way, ?_, ?_⟩
    · rw [mirrors.records]
      cases m c.uuid <;> nofun
    · rw [parts_temporaryPath, mirrors.others _ (temporary_unnamed _)]
      nofun
  obtain ⟨fs', done, there, -⟩ := run_write_ok usable
  exact ⟨fs', done, mirrors.written valid c done there⟩

/-- Either kind of save is answered as the map would. -/
theorem Mirrors.saving (now : { t : Timestamp // t.Valid }) (x : Saving) :
    ∃ a m' fs', FileSystem.run (x.program s now) fs = (a, fs') ∧
      RecordMap.Answers (.save now x) m a m' ∧ s.Mirrors m' fs' := by
  cases x with
  | cluster c =>
    obtain ⟨fs', done, mirrors'⟩ := mirrors.save now.property c
    exact ⟨_, _, fs', done, .cluster now c m, mirrors'⟩
  | nodeGroup id g =>
    cases there : m id with
    | none =>
      have failed := run_saveNodeGroup_error (mirrors.missing there) now g
      exact ⟨_, m, fs, failed, .ungrouped now g m there, mirrors⟩
    | some c =>
      have done := run_saveNodeGroup (mirrors.loaded there) now g
      obtain ⟨fs', saved, mirrors'⟩ := mirrors.save now.property (c.withNodeGroup g)
      have mine : (c.withNodeGroup g).uuid = id := (mirrors.sound id c there).1
      rw [mine] at mirrors'
      refine ⟨_, _, fs', done.trans saved, ?_, mirrors'⟩
      cases found : c.nodeGroups.find? (·.name = g.name) with
      | none =>
        have new : ∀ other ∈ c.nodeGroups, other.name ≠ g.name := by
          simpa using List.find?_eq_none.1 found
        rw [Cluster.withNodeGroup, Cluster.replaceGroup_new new]
        exact .appended now m there new
      | some old =>
        obtain ⟨same, before, after, split, first⟩ := List.find?_eq_some_iff_append.1 found
        have same : old.name = g.name := by simpa using same
        have first : ∀ other ∈ before, other.name ≠ g.name := by simpa using first
        rw [Cluster.withNodeGroup, split,
          Cluster.replaceGroup_middle same.symm before after (same ▸ first)]
        exact .replaced now m there split same first

/-- What is left once the file of a record is gone. -/
theorem Mirrors.erase (id : Uuid) :
    s.Mirrors (Function.update m id none) (fs.erase (parts (s.path id))) := by
  have same (place : List String) (other : place ≠ parts (s.path id)) :
      (fs.erase (parts (s.path id))).find? place = fs.find? place := find?_erase_of_ne other
  have gone : (fs.erase (parts (s.path id))).find? (parts (s.path id)) = none :=
    find?_erase_self (by simp [parts_path])
  constructor
  case way =>
    intro before above
    rw [Clear, same before (parts_path s id ▸ above_ne above _)]
    exact mirrors.way before above
  case housed =>
    intro name inside
    have other : parts s.directory ++ [name] ≠ parts (s.path id) := by
      intro mine
      rw [mine, gone] at inside
      cases inside
    rw [same _ other] at inside
    rw [same _ (parts_path s id ▸ above_ne (List.prefix_refl _) _)]
    exact mirrors.housed name inside
  case distinct =>
    rw [parts_path, names_erase]
    exact mirrors.distinct.filter _
  case records =>
    intro other
    by_cases mine : other = id
    · rw [mine, Function.update_self]
      exact gone
    · rw [Function.update_of_ne mine, ← mirrors.records other]
      exact same _ fun paths => mine (parts_path_injective paths)
  case others =>
    intro name unnamed
    rw [same _ (by simpa [parts_path] using unnamed id)]
    exact mirrors.others name unnamed
  case sound =>
    intro other c there
    by_cases mine : other = id
    · rw [mine, Function.update_self] at there
      cases there
    · rw [Function.update_of_ne mine] at there
      exact mirrors.sound other c there

theorem Mirrors.remove (id : Uuid) :
    ∃ fs', FileSystem.run (s.remove id) fs = (.ok (), fs') ∧
      s.Mirrors (Function.update m id none) fs' := by
  cases there : m id with
  | none =>
    have unread : fs.remove (parts (s.path id)) = .error .missing := by
      rw [FileSystem.remove, mirrors.read_missing there]
      rfl
    refine ⟨fs, ?_, ?_⟩
    · rw [Store.remove, run_remove (congrArg fs.change unread)]
      rfl
    · rwa [← there, Function.update_eq_self]
  | some c =>
    have found := mirrors.records id
    rw [there] at found
    have erased : fs.remove (parts (s.path id)) = .ok (fs.erase (parts (s.path id))) := by
      rw [FileSystem.remove, read_ok found]
      rfl
    refine ⟨fs.erase (parts (s.path id)), ?_, mirrors.erase id⟩
    rw [Store.remove, run_remove (congrArg fs.change erased)]
    rfl

/-- The identities in the directory are those of the records. -/
theorem Mirrors.roster (filled : s.directory ≠ "") :
    ∃ ids, s.roster fs = some ids ∧ ids.Nodup ∧ ∀ id, id ∈ ids ↔ (m id).isSome := by
  have named : ∀ name ∈ fs.names (parts s.directory),
      ∃ id : Uuid, id.toString ++ ".yaml" = name := by
    intro name inside
    refine Classical.not_not.1 fun unnamed => ?_
    rw [mem_names, mirrors.others name fun id same => unnamed ⟨id, same.symm⟩] at inside
    cases inside
  obtain ⟨ids, names⟩ := (Set.range_list_map fun id : Uuid => id.toString ++ ".yaml").ge named
  have known : identities (fs.names (parts s.directory)) = ids := by
    rw [← names, identities_records]
  refine ⟨ids, ?_, ?_, fun id => ?_⟩
  · rw [roster_open filled mirrors.way mirrors.housed, known]
  · have images := mirrors.distinct
    rw [← names] at images
    exact List.Nodup.of_map _ images
  · have inside : id ∈ ids ↔ id.toString ++ ".yaml" ∈ fs.names (parts s.directory) := by
      rw [← names, List.mem_map]
      constructor
      · exact fun mem => ⟨id, mem, rfl⟩
      · rintro ⟨other, mem, same⟩
        rwa [← Uuid.toString_injective ((String.append_left_inj _).1 same)]
    rw [inside, mem_names, ← parts_path, mirrors.records, Option.isSome_map]

/-- What is loaded under identities of records, one after the other. -/
theorem Mirrors.mapM_loaded {ids : List Uuid} (known : ∀ id ∈ ids, (m id).isSome) :
    ∃ clusters, ids.mapM (s.loaded fs) = .ok clusters ∧ clusters.map Cluster.uuid = ids ∧
      ∀ c ∈ clusters, m c.uuid = some c := by
  induction ids with
  | nil => exact ⟨[], rfl, rfl, fun _ mem => absurd mem List.not_mem_nil⟩
  | cons id rest ih =>
    obtain ⟨here, later⟩ := List.forall_mem_cons.1 known
    obtain ⟨c, there⟩ := Option.isSome_iff_exists.1 here
    obtain ⟨clusters, all, uuids, stored⟩ := ih later
    have mine := (mirrors.sound id c there).1
    refine ⟨c :: clusters, ?_, ?_, ?_⟩
    · rw [List.mapM_cons, mirrors.loaded there, all]
      rfl
    · rw [List.map_cons, mine, uuids]
    · rintro _ (_ | ⟨_, mem⟩)
      · rw [mine, there]
      · exact stored _ mem

theorem Mirrors.list (filled : s.directory ≠ "") :
    ∃ a, FileSystem.run s.list fs = (a, fs) ∧ RecordMap.Answers .list m a m := by
  obtain ⟨ids, roster, distinct, known⟩ := mirrors.roster filled
  obtain ⟨clusters, all, uuids, stored⟩ := mirrors.mapM_loaded fun id mem => (known id).1 mem
  refine ⟨_, run_list s fs, ?_⟩
  rw [roster, Option.elim_some, all, sorted]
  have perm := List.mergeSort_perm clusters fun a b => a.name ≤ b.name
  refine .listed m ?_ ?_ fun c => ?_
  · exact pairwise_byName clusters
  · rw [(perm.map Cluster.uuid).nodup_iff, uuids]
    exact distinct
  · rw [perm.mem_iff]
    refine ⟨stored c, fun there => ?_⟩
    have mem : c.uuid ∈ clusters.map Cluster.uuid := by
      rw [uuids, known, there]
      rfl
    obtain ⟨d, inside, same⟩ := List.mem_map.1 mem
    have both := stored d inside
    rw [same, there] at both
    cases both
    exact inside

/-- Every request is answered as the map would. -/
theorem Mirrors.serve (filled : s.directory ≠ "") (q : RecordRequest) :
    ∃ a m' fs', FileSystem.run (s.serve q) fs = (a, fs') ∧ RecordMap.Answers q m a m' ∧
      s.Mirrors m' fs' := by
  cases q with
  | save now x => exact mirrors.saving now x
  | remove id =>
    obtain ⟨fs', done, mirrors'⟩ := mirrors.remove id
    exact ⟨_, _, fs', done, .removed id m, mirrors'⟩
  | load id =>
    have unchanged := run_load_state s id fs
    refine ⟨s.loaded fs id, m, fs, Prod.ext rfl unchanged, ?_, mirrors⟩
    cases there : m id with
    | some c => exact mirrors.loaded there ▸ .loaded m there
    | none => exact mirrors.missing there ▸ .missing m there
  | list =>
    obtain ⟨a, done, answers⟩ := mirrors.list filled
    exact ⟨a, m, fs, done, answers, mirrors⟩

end

/-- Whatever a client asks, one thing after the other, is answered as the map would. -/
theorem Mirrors.run {α : Type} (filled : s.directory ≠ "") (p : Program recordInterface α)
    (mirrors : s.Mirrors m fs) :
    ∃ m', Reaches RecordMap.Answers p m (.done (FileSystem.run (p.through s.serve) fs).1) m' := by
  induction p generalizing m fs with
  | done a => exact ⟨m, .here _ _⟩
  | ask q next ih =>
    obtain ⟨a, m₁, fs₁, done, answered, mirrors₁⟩ := mirrors.serve filled q
    obtain ⟨m', reached⟩ := ih a mirrors₁
    rw [FileSystem.run] at done reached
    rw [Program.through, FileSystem.run, Program.run_bind, done]
    exact ⟨m', .on answered reached⟩

/-- Saves a record and then asks for all of them. -/
def saveThenList (now : { t : Timestamp // t.Valid }) (c : Cluster) :
    Program recordInterface (Result (List Cluster)) :=
  .ask (.save now (.cluster c)) fun _ => .ask .list .done

theorem run_saveThenList (s : Store) (now : { t : Timestamp // t.Valid }) (c : Cluster)
    (fs : FileSystem) : (FileSystem.run ((saveThenList now c).through s.serve) fs).1 =
      s.listed (FileSystem.run (s.save now c) fs).2 := by
  change (((s.save now c).bind fun _ => s.list.bind .done).run FileSystem.answer fs).1 = _
  rw [Program.run_bind, Program.bind_done]
  rfl

/-- A map lists what has been saved. -/
theorem listed_of_saved {now : { t : Timestamp // t.Valid }} {r : Result (List Cluster)}
    (reached : Reaches RecordMap.Answers (saveThenList now c) m (.done r) m') :
    ∃ clusters, r = .ok clusters ∧ { c with updatedAt := some now.val } ∈ clusters := by
  cases reached with
  | on answered rest =>
    cases answered with
    | cluster =>
      cases rest with
      | on answered rest =>
        cases answered with
        | listed _ _ _ all =>
          cases rest with
          | here =>
            refine ⟨_, rfl, (all _).2 ?_⟩
            exact Function.update_self _ _ _

/-- In a directory with a name a store answers every client as a map from identities to records
would. Where the name is empty it does not: records are saved in the working directory, and none of
them is listed. -/
theorem answers_as_map_iff (s : Store) {fs : FileSystem} (vacant : s.Vacant fs) :
    (∀ (α : Type) (p : Program recordInterface α), ∃ m, Reaches RecordMap.Answers p (fun _ => none)
      (.done (FileSystem.run (p.through s.serve) fs).1) m) ↔ s.directory ≠ "" := by
  constructor
  · intro answers empty
    let now : { t : Timestamp // t.Valid } := ⟨⟨2024, 2, 29, 23, 59, 60, 5⟩, by decide⟩
    obtain ⟨m, reached⟩ := answers _ (saveThenList now (Cluster.sample .nil))
    obtain ⟨clusters, listed, mem⟩ := listed_of_saved reached
    rw [run_saveThenList, listed_empty empty] at listed
    cases listed
    cases mem
  · exact fun filled α p => vacant.mirrors.run filled p

theorem answers_as_map_iff_sample :
    let here : Store := ⟨""⟩
    let named : Store := ⟨"state"⟩
    here.Vacant {} ∧ named.Vacant {} ∧
      (∀ (α : Type) (p : Program recordInterface α), ∃ m,
        Reaches RecordMap.Answers p (fun _ => none)
          (.done (FileSystem.run (p.through named.serve) {}).1) m) ∧
      ¬∀ (α : Type) (p : Program recordInterface α), ∃ m,
        Reaches RecordMap.Answers p (fun _ => none)
          (.done (FileSystem.run (p.through here.serve) {}).1) m := by
  intro here named
  have vacant (s : Store) : s.Vacant {} := by
    refine ⟨(usable_empty s .nil).way, fun name => ?_⟩
    rw [find?_of_ne_nil (by simp)]
    rfl
  refine ⟨vacant here, vacant named, ?_, ?_⟩
  · exact (answers_as_map_iff named (vacant named)).2 (by decide)
  · exact fun answers => (answers_as_map_iff here (vacant here)).1 answers rfl

end Store

end ClusterLifecycle
