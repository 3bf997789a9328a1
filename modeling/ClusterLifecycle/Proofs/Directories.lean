import ClusterLifecycle.Proofs.Listing
import ClusterLifecycle.Proofs.Recording
import Mathlib.Data.List.Forall2
import Mathlib.Data.List.Nodup
import Mathlib.Data.List.Pairwise
import Mathlib.Data.List.Perm.Subperm

/-!
The list of the records in a directory that holds other things besides.

* `Store.Lists`: one entry for each record file and no other, in the order of the names;
* `Store.Undisturbed`: nothing in the directory is taken for a record but the record files;
* `Store.lists_records_iff`: the list is right there and nowhere else.
-/

namespace ClusterLifecycle

open FileSystem

theorem Result.mapM_ok_iff {α β : Type} {f : α → Result β} {l : List α} {l' : List β} :
    l.mapM f = .ok l' ↔ List.Forall₂ (fun a b => f a = .ok b) l l' := by
  induction l generalizing l' with
  | nil =>
    rw [List.mapM_nil, List.forall₂_nil_left_iff]
    exact ⟨fun same => (Except.ok.inj same).symm, fun empty => congrArg Except.ok empty.symm⟩
  | cons a rest ih =>
    rw [List.mapM_cons, List.forall₂_cons_left_iff]
    cases here : f a with
    | error e => exact iff_of_false nofun (by rintro ⟨b, later, ⟨⟩, _⟩)
    | ok b =>
      cases others : rest.mapM f with
      | error e =>
        refine iff_of_false nofun ?_
        rintro ⟨_, later, -, all, -⟩
        rw [ih.2 all] at others
        cases others
      | ok later =>
        constructor
        · rintro ⟨⟩
          exact ⟨b, later, rfl, ih.1 others, rfl⟩
        · rintro ⟨_, later', ⟨⟩, all, rfl⟩
          cases others.symm.trans (ih.2 all)
          rfl

/-- Where nothing is given twice, what one item gives no other gives. -/
theorem List.eq_of_nodup_filterMap {α β : Type} {f : α → Option β} {l : List α} {a a' : α} {b : β}
    (once : (l.filterMap f).Nodup) (mem : a ∈ l) (mem' : a' ∈ l) (gives : f a = some b)
    (gives' : f a' = some b) : a = a' := by
  let Apart (x y : α) : Prop := ∀ u, f x = some u → ∀ v, f y = some v → u ≠ v
  have symmetric : Std.Symm Apart := ⟨fun x y h u hu v hv => (h v hv u hu).symm⟩
  have different : l.Pairwise Apart := List.pairwise_filterMap.1 once
  by_contra apart
  exact different.forall mem mem' apart b gives b gives' rfl

namespace Store

variable {s : Store} {fs : FileSystem} {id : Uuid} {ids : List Uuid} {clusters : List Cluster}

/-- The file of the record is there. -/
def HasRecord (s : Store) (fs : FileSystem) (id : Uuid) : Prop :=
  ∃ text, fs.find? (parts (s.path id)) = some (.file text)

/-- One entry for each record file and no other, in ascending order of the clusters' names. -/
structure Lists (s : Store) (fs : FileSystem) (clusters : List Cluster) : Prop where
  sorted : clusters.Pairwise fun a b => a.name ≤ b.name
  exact : ∃ ids records, ids.Nodup ∧ (∀ id, id ∈ ids ↔ s.HasRecord fs id) ∧
    List.Forall₂ (fun id c => s.loaded fs id = .ok c) ids records ∧ clusters.Perm records

/-- Where a name in the directory is read as an identity there is a record file, and the name is
that of the file. A directory without a name of its own is never read. -/
def Undisturbed (s : Store) (fs : FileSystem) : Prop :=
  if s.directory = "" then ∀ id, ¬s.HasRecord fs id
  else ∀ name ∈ fs.names (parts s.directory), ∀ id, Uuid.ofString? (Files.stem name) = some id →
    name = id.toString ++ ".yaml" ∧ s.HasRecord fs id

theorem HasRecord.mem_names (there : s.HasRecord fs id) :
    id.toString ++ ".yaml" ∈ fs.names (parts s.directory) := by
  obtain ⟨text, found⟩ := there
  rw [FileSystem.mem_names, ← parts_path, found]
  rfl

theorem HasRecord.mem_identities (there : s.HasRecord fs id) :
    id ∈ identities (fs.names (parts s.directory)) :=
  List.mem_filterMap.2 ⟨_, there.mem_names, ofString?_stem_record id⟩

/-- Where every record file can be loaded, so can any number of them. -/
theorem exists_loaded (loadable : ∀ id, s.HasRecord fs id → ∃ c, s.loaded fs id = .ok c)
    (there : ∀ id ∈ ids, s.HasRecord fs id) :
    ∃ records, List.Forall₂ (fun id c => s.loaded fs id = .ok c) ids records := by
  induction ids with
  | nil => exact ⟨[], .nil⟩
  | cons id rest ih =>
    obtain ⟨here, later⟩ := List.forall_mem_cons.1 there
    obtain ⟨c, loaded⟩ := loadable id here
    obtain ⟨records, all⟩ := ih later
    exact ⟨c :: records, .cons loaded all⟩

/-- The list, where the directory is read. -/
theorem listed_directory (filled : s.directory ≠ "")
    (here : fs.find? (parts s.directory) = some .directory) :
    s.listed fs = sorted ((identities (fs.names (parts s.directory))).mapM (s.loaded fs)) := by
  rw [listed, run_list, roster_directory filled here, Option.elim_some]

theorem undisturbed_of_lists (filled : s.directory ≠ "")
    (here : fs.find? (parts s.directory) = some .directory) (listed : s.listed fs = .ok clusters)
    (lists : s.Lists fs clusters) : s.Undisturbed fs := by
  rw [listed_directory filled here] at listed
  rw [Undisturbed, if_neg filled]
  obtain ⟨found, all, perm, -⟩ := sorted_ok listed
  obtain ⟨ids, records, once, known, each, same⟩ := lists.exact
  have all := Result.mapM_ok_iff.1 all
  have subset : ids ⊆ identities (fs.names (parts s.directory)) :=
    fun id mem => ((known id).1 mem).mem_identities
  have lengths : (identities (fs.names (parts s.directory))).length = ids.length := by
    rw [all.length_eq, each.length_eq, ← perm.length_eq, same.length_eq]
  have only := (once.subperm subset).perm_of_length_le (Nat.le_of_eq lengths)
  intro name mem id read
  have there : s.HasRecord fs id :=
    (known id).1 (only.mem_iff.2 (List.mem_filterMap.2 ⟨name, mem, read⟩))
  exact ⟨List.eq_of_nodup_filterMap (only.nodup_iff.1 once) mem there.mem_names read
    (ofString?_stem_record id), there⟩

theorem lists_of_undisturbed (filled : s.directory ≠ "")
    (here : fs.find? (parts s.directory) = some .directory)
    (distinct : (fs.names (parts s.directory)).Nodup)
    (loadable : ∀ id, s.HasRecord fs id → ∃ c, s.loaded fs id = .ok c)
    (undisturbed : s.Undisturbed fs) :
    ∃ clusters, s.listed fs = .ok clusters ∧ s.Lists fs clusters := by
  rw [Undisturbed, if_neg filled] at undisturbed
  have known (id : Uuid) : id ∈ identities (fs.names (parts s.directory)) ↔ s.HasRecord fs id := by
    constructor
    · intro mem
      obtain ⟨name, inside, read⟩ := List.mem_filterMap.1 mem
      exact (undisturbed name inside id read).2
    · exact HasRecord.mem_identities
  have once : (identities (fs.names (parts s.directory))).Nodup := by
    refine List.pairwise_filterMap.2 (distinct.imp_of_mem ?_)
    rintro a b mem mem' apart id read _ read' rfl
    exact apart ((undisturbed a mem id read).1.trans (undisturbed b mem' id read').1.symm)
  obtain ⟨records, each⟩ := exists_loaded loadable fun id mem => (known id).1 mem
  have all := Result.mapM_ok_iff.2 each
  refine ⟨_, by rw [listed_directory filled here, all]; rfl, ?_⟩
  exact ⟨pairwise_byName records, _, records, once, known, each, List.mergeSort_perm records _⟩

/-- A directory without a name is taken for one without records. -/
theorem lists_empty_iff (empty : s.directory = "") :
    (∃ clusters, s.listed fs = .ok clusters ∧ s.Lists fs clusters) ↔ s.Undisturbed fs := by
  rw [Undisturbed, if_pos empty, listed_empty empty]
  constructor
  · rintro ⟨_, ⟨⟩, -, ids, records, -, known, each, same⟩ id there
    rw [List.nil_perm.1 same, List.forall₂_nil_right_iff] at each
    rw [← known, each] at there
    exact List.not_mem_nil there
  · intro vacant
    refine ⟨[], rfl, .nil, [], [], .nil, fun id => ?_, .nil, .refl []⟩
    exact iff_of_false List.not_mem_nil (vacant id)

/-- In a directory in which every record file can be loaded, whatever else it holds, the list has
one entry for each of these files and no other if and only if nothing else has a name that an
identity is read from: another spelling of the identity, another extension or none, or a directory
in the place of a record file. -/
theorem lists_records_iff (s : Store) {fs : FileSystem}
    (here : fs.find? (parts s.directory) = some .directory)
    (distinct : (fs.names (parts s.directory)).Nodup)
    (loadable : ∀ id text, fs.find? (parts (s.path id)) = some (.file text) →
      ∃ c, Cluster.read? text = some c) :
    (∃ clusters, s.listed fs = .ok clusters ∧ s.Lists fs clusters) ↔ s.Undisturbed fs := by
  have loadable (id : Uuid) (there : s.HasRecord fs id) : ∃ c, s.loaded fs id = .ok c := by
    obtain ⟨text, found⟩ := there
    obtain ⟨c, read⟩ := loadable id text found
    exact ⟨c, run_load_ok_iff.2 ⟨text, found, read⟩⟩
  by_cases filled : s.directory = ""
  · exact lists_empty_iff filled
  · constructor
    · rintro ⟨clusters, listed, lists⟩
      exact undisturbed_of_lists filled here listed lists
    · exact lists_of_undisturbed filled here distinct loadable

theorem lists_records_iff_sample :
    let s : Store := ⟨"state"⟩
    let c := Cluster.sample .nil
    let tidy : FileSystem := ⟨[(["state"], .directory), (["state", "notes.yaml"], .directory),
      (["state", Uuid.nil.toString ++ ".yaml"], .file c.render)]⟩
    let copied : FileSystem := ⟨tidy.entries ++
      [(["state", Uuid.nil.toString ++ ".bak"], .file c.render)]⟩
    (∃ clusters, s.listed tidy = .ok clusters ∧ s.Lists tidy clusters) ∧
      ¬∃ clusters, s.listed copied = .ok clusters ∧ s.Lists copied clusters := by
  intro s c tidy copied
  have loadable (fs : FileSystem)
      (texts : ∀ at_ text, (at_, .file text) ∈ fs.entries → text = c.render) (id : Uuid)
      (text : String) (there : fs.find? (parts (s.path id)) = some (.file text)) :
      ∃ c, Cluster.read? text = some c := by
    rw [parts_path, find?_of_ne_nil (by simp), List.lookup_eq_some_iff] at there
    obtain ⟨before, after, split, -⟩ := there
    have whole := texts (parts s.directory ++ [id.toString ++ ".yaml"]) text (by simp [split])
    exact ⟨c, whole ▸ Cluster.read?_render c nofun⟩
  have tidyTexts : ∀ at_ text, (at_, .file text) ∈ tidy.entries → text = c.render := by
    simp [tidy]
  have copiedTexts : ∀ at_ text, (at_, .file text) ∈ copied.entries → text = c.render := by
    simp only [copied, tidy]
    grind
  have place : parts s.directory = ["state"] := by decide +kernel
  have tidyNames : tidy.names ["state"] = ["notes.yaml", Uuid.nil.toString ++ ".yaml"] := by
    decide +kernel
  have copiedNames : copied.names ["state"] =
      ["notes.yaml", Uuid.nil.toString ++ ".yaml", Uuid.nil.toString ++ ".bak"] := by
    decide +kernel
  have tidyHere : tidy.find? (parts s.directory) = some .directory := place ▸ rfl
  have copiedHere : copied.find? (parts s.directory) = some .directory := place ▸ rfl
  constructor
  · have distinct : (tidy.names (parts s.directory)).Nodup := by
      rw [place, tidyNames]
      decide +kernel
    refine (lists_records_iff s tidyHere distinct (loadable tidy tidyTexts)).2 ?_
    rw [Undisturbed, if_neg (by decide), place, tidyNames]
    refine List.forall_mem_cons.2 ⟨fun id read => ?_, List.forall_mem_singleton.2 fun id read => ?_⟩
    · have unread : Uuid.ofString? (Files.stem "notes.yaml") = none := by decide +kernel
      cases unread.symm.trans read
    · cases (ofString?_stem_record .nil).symm.trans read
      exact ⟨rfl, c.render, by rw [parts_path, place]; rfl⟩
  · intro lists
    have distinct : (copied.names (parts s.directory)).Nodup := by
      rw [place, copiedNames]
      decide +kernel
    have undisturbed :=
      (lists_records_iff s copiedHere distinct (loadable copied copiedTexts)).1 lists
    rw [Undisturbed, if_neg (by decide), place, copiedNames] at undisturbed
    have taken := undisturbed (Uuid.nil.toString ++ ".bak") (by simp) .nil (by decide +kernel)
    exact absurd taken.1 (by decide +kernel)

end Store

end ClusterLifecycle
