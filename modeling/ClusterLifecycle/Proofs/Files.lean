import ClusterLifecycle.Files
import ClusterLifecycle.Proofs.Lookups

/-!
Paths and the file system in memory.

* where a name in a directory leads;
* what placing and erasing an entry does to the others;
* when a directory is made, a text written and a file renamed, and what is there afterwards.
-/

namespace ClusterLifecycle

/-- Names one entry of a directory, and leads nowhere else. -/
structure Files.IsName (name : String) : Prop where
  flat : '/' ∉ name.toList
  proper : name ≠ "" ∧ name ≠ "." ∧ name ≠ ".."

theorem Files.isName_of_mem {name : String} {c : Char} (flat : '/' ∉ name.toList)
    (letter : c ∈ name.toList) (no_dot : c ≠ '.') : IsName name where
  flat
  proper := by
    refine ⟨?_, ?_, ?_⟩ <;>
    · rintro rfl
      revert letter
      simp [no_dot]

theorem Files.join_append (directory name more : String) :
    join directory name ++ more = join directory (name ++ more) := by
  unfold join
  split <;> simp only [String.append_assoc]

namespace FileSystem

section Paths

variable {name : String}

theorem segments_name (flat : '/' ∉ name.toList) : segments name = [name] := by
  rw [segments, List.splitOn_eq_singleton flat, List.map_singleton, String.ofList_toList]

theorem segments_slash (path : String) (flat : '/' ∉ name.toList) :
    segments (path ++ "/" ++ name) = segments path ++ [name] := by
  have split : (path ++ "/" ++ name).toList = path.toList ++ '/' :: name.toList := by simp
  rw [segments, split, List.splitOn_append_cons_self, List.map_append,
    List.splitOn_eq_singleton flat,
    List.map_singleton, String.ofList_toList, segments]

theorem step_empty (place : List String) : step place "" = place := rfl

theorem step_name (h : Files.IsName name) (place : List String) :
    step place name = place ++ [name] := by
  obtain ⟨filled, no_dot, no_dots⟩ := h.proper
  rw [step, if_neg (by simp [filled, no_dot]), if_neg no_dots]

/-- Adding to a text that is not empty keeps how it begins. -/
theorem head?_append_of_ne {path : String} (filled : path ≠ "") (more : String) :
    (path ++ more).toList.head? = path.toList.head? := by
  obtain ⟨c, rest, begins⟩ := List.exists_cons_of_ne_nil (l := path.toList) (by simpa using filled)
  simp [begins]

theorem segments_closed (path : String) : segments (path ++ "/") = segments path ++ [""] := by
  have empty : path ++ "/" ++ "" = path ++ "/" := String.append_empty
  rw [← empty, segments_slash path (by simp)]

/-- A slash at the end of a path leads nowhere else. -/
theorem parts_closed {path : String} (filled : path ≠ "") : parts (path ++ "/") = parts path := by
  rw [parts, segments_closed, head?_append_of_ne filled, List.foldl_append, List.foldl_cons,
    List.foldl_nil, step_empty, parts]

theorem parts_slash (path : String) (h : Files.IsName name) :
    parts (path ++ "/" ++ name) = parts (path ++ "/") ++ [name] := by
  rw [parts, parts, segments_slash path h.flat, segments_closed,
    head?_append_of_ne (by simp : path ++ "/" ≠ "")]
  simp only [List.foldl_append, List.foldl_cons, List.foldl_nil, step_empty, step_name h]

theorem parts_name (h : Files.IsName name) : parts name = [name] := by
  have relative : name.toList.head? ≠ some '/' := fun first => h.flat (List.mem_of_head? first)
  rw [parts, segments_name h.flat, if_neg relative, List.foldl_cons, List.foldl_nil, step_name h,
    List.nil_append]

theorem eq_closed {path : String} (closed : path.toList.getLast? = some '/') :
    ∃ before, path = before ++ "/" := by
  obtain ⟨before, split⟩ := List.getLast?_eq_some_iff.1 closed
  refine ⟨String.ofList before, ?_⟩
  rw [← String.ofList_toList (s := path), split, String.ofList_append]

/-- A name in a directory is the last part of its path. -/
theorem parts_join (directory : String) (h : Files.IsName name) :
    parts (Files.join directory name) = parts directory ++ [name] := by
  rw [Files.join]
  by_cases empty : directory = ""
  · rw [if_pos (.inl empty), empty, String.empty_append, parts_name h]
    rfl
  by_cases closed : directory.toList.getLast? = some '/'
  · obtain ⟨before, rfl⟩ := eq_closed closed
    rw [if_pos (.inr closed), parts_slash before h]
  · rw [if_neg (by simp [empty, closed]), parts_slash directory h, parts_closed empty]

theorem meansDirectory_join (directory : String) (h : Files.IsName name) :
    meansDirectory (Files.join directory name) = false := by
  obtain ⟨filled, no_dot, no_dots⟩ := h.proper
  have proper : (["", ".", ".."].contains name) = false := by simp [filled, no_dot, no_dots]
  have last : (segments (Files.join directory name)).getLast? = some name := by
    rw [Files.join]
    split
    case isTrue plain =>
      rcases plain with rfl | closed
      · rw [String.empty_append, segments_name h.flat, List.getLast?_singleton]
      · obtain ⟨before, rfl⟩ := eq_closed closed
        rw [segments_slash before h.flat, List.getLast?_concat]
    case isFalse => rw [segments_slash directory h.flat, List.getLast?_concat]
  rw [meansDirectory, last, Option.any_some, proper]

end Paths

section Entries

variable {fs : FileSystem} {place other : List String}

theorem find?_of_ne_nil (h : place ≠ []) : fs.find? place = fs.entries.lookup place := by
  rw [find?, if_neg (by simpa using h)]

theorem find?_nil (fs : FileSystem) : fs.find? [] = some .directory := rfl

theorem find?_put_self (h : place ≠ []) (e : FileEntry) :
    (fs.put place e).find? place = some e := by
  rw [find?_of_ne_nil h, put]
  split
  case isTrue there =>
    obtain ⟨old, found⟩ := Option.isSome_iff_exists.1 there
    rw [find?_of_ne_nil h] at found
    rw [lookup_map (by grind), found]
    simp
  case isFalse absent =>
    rw [find?_of_ne_nil h] at absent
    rw [List.lookup_append, Option.not_isSome_iff_eq_none.1 absent]
    simp

theorem find?_put_of_ne (h : other ≠ place) (e : FileEntry) :
    (fs.put place e).find? other = fs.find? other := by
  by_cases root : other = []
  · rw [root, find?_nil, find?_nil]
  rw [find?_of_ne_nil root, find?_of_ne_nil root, put]
  split
  · rw [lookup_map (by grind)]
    simp [h]
  · rw [List.lookup_append, List.lookup_cons, beq_eq_false_iff_ne.2 h]
    simp

theorem find?_erase_self (h : place ≠ []) : (fs.erase place).find? place = none := by
  rw [find?_of_ne_nil h, erase, lookup_filter_self]

theorem find?_erase_of_ne (h : other ≠ place) : (fs.erase place).find? other = fs.find? other := by
  rw [find?, find?, erase, lookup_filter_ne h]

theorem mem_way : other ∈ way place ↔ other <+: place := by
  rw [way, List.mem_map]
  constructor
  · rintro ⟨n, -, rfl⟩
    exact List.take_prefix n place
  · intro before
    have short : other.length < place.length + 1 := Nat.lt_succ_of_le before.length_le
    exact ⟨other.length, List.mem_range.2 short, (List.prefix_iff_eq_take.1 before).symm⟩

/-- No file is at the place. -/
def Clear (fs : FileSystem) (place : List String) : Prop :=
  ∀ text, fs.find? place ≠ some (.file text)

theorem makeOne_ok (clear : fs.Clear place) :
    ∃ fs', fs.makeOne place = .ok fs' ∧ fs'.find? place = some .directory ∧
      ∀ other, other ≠ place → fs'.find? other = fs.find? other := by
  rw [makeOne]
  match found : fs.find? place with
  | some (.file text) => exact absurd found (clear text)
  | some .directory => exact ⟨fs, rfl, found, fun _ _ => rfl⟩
  | none =>
    have below : place ≠ [] := by
      rintro rfl
      cases found
    exact ⟨_, rfl, find?_put_self below _, fun _ h => find?_put_of_ne h _⟩

theorem makeOne_error (h : ¬ fs.Clear place) : fs.makeOne place = .error .other := by
  simp only [Clear, ne_eq, Classical.not_forall, Classical.not_not] at h
  obtain ⟨text, found⟩ := h
  rw [makeOne, found]

theorem makeAll_ok {places : List (List String)} (clear : ∀ place ∈ places, fs.Clear place) :
    ∃ fs', places.foldlM makeOne fs = .ok fs' ∧
      (∀ place ∈ places, fs'.find? place = some .directory) ∧
      ∀ other, other ∉ places → fs'.find? other = fs.find? other := by
  induction places generalizing fs with
  | nil => exact ⟨fs, rfl, nofun, fun _ _ => rfl⟩
  | cons place rest ih =>
    obtain ⟨fs₁, made, there, same⟩ := makeOne_ok (clear place List.mem_cons_self)
    have clear₁ : ∀ other ∈ rest, fs₁.Clear other := by
      intro other hother text
      by_cases h : other = place
      · rw [h, there]
        nofun
      · rw [same other h]
        exact clear other (List.mem_cons_of_mem _ hother) text
    obtain ⟨fs₂, rest_made, all_there, all_same⟩ := ih clear₁
    refine ⟨fs₂, ?_, ?_, ?_⟩
    · rw [List.foldlM_cons, made]
      exact rest_made
    · intro other hother
      by_cases again : other ∈ rest
      · exact all_there other again
      · obtain rfl := (List.mem_cons.1 hother).resolve_right again
        rw [all_same other again, there]
    · intro other hother
      rw [List.mem_cons, not_or] at hother
      obtain ⟨h, hrest⟩ := hother
      rw [all_same other hrest, same other h]

theorem makeAll_error {places : List (List String)} (h : ∃ place ∈ places, ¬ fs.Clear place) :
    places.foldlM makeOne fs = .error .other := by
  induction places generalizing fs with
  | nil => simp at h
  | cons first rest ih =>
    rw [List.foldlM_cons]
    by_cases clear : fs.Clear first
    · obtain ⟨fs₁, made, -, same⟩ := makeOne_ok clear
      obtain ⟨place, hplace, file⟩ := h
      have later : place ≠ first := by
        rintro rfl
        exact file clear
      have hrest := (List.mem_cons.1 hplace).resolve_left later
      have file₁ : ¬ fs₁.Clear place := by rwa [Clear, same place later]
      rw [made]
      exact ih ⟨place, hrest, file₁⟩
    · rw [makeOne_error clear]
      rfl

/-- A directory is made when no file is on the way to it, and nothing off that way changes. -/
theorem makeDirectory_ok (clear : ∀ before, before <+: place → fs.Clear before) :
    ∃ fs', fs.makeDirectory place = .ok fs' ∧
      (∀ before, before <+: place → fs'.find? before = some .directory) ∧
      ∀ other, ¬ other <+: place → fs'.find? other = fs.find? other := by
  obtain ⟨fs', made, there, same⟩ := makeAll_ok fun before h => clear before (mem_way.1 h)
  exact ⟨fs', made, fun before h => there before (mem_way.2 h),
    fun other h => same other (mt mem_way.1 h)⟩

theorem makeDirectory_error {before : List String} (h : before <+: place)
    (file : ¬ fs.Clear before) : fs.makeDirectory place = .error .other :=
  makeAll_error ⟨before, mem_way.2 h, file⟩

theorem write_ok (h : fs.find? place.dropLast = some .directory)
    (file : fs.find? place ≠ some .directory) (text : String) :
    fs.write place text = .ok (fs.put place (.file text)) := by
  rw [write, h]
  match found : fs.find? place with
  | some .directory => exact absurd found file
  | some (.file _) | none => rfl

theorem write_error (h : fs.find? place = some .directory) (text : String) :
    fs.write place text = .error .other := by
  rw [write, h]

theorem read_ok {text : String} (h : fs.find? place = some (.file text)) :
    fs.read place = .ok text := by
  rw [read, h]

theorem rename_ok {source target : List String} {text : String}
    (there : fs.find? source = some (.file text)) (h : fs.find? target.dropLast = some .directory)
    (file : fs.find? target ≠ some .directory) (apart : source ≠ target) :
    fs.rename source target = .ok ((fs.put target (.file text)).erase source) := by
  have written := write_ok h file text
  simp only [rename, read_ok there, written, Except.map, apart, ↓reduceIte]

theorem rename_error {source target : List String} {text : String}
    (there : fs.find? source = some (.file text)) (h : fs.find? target = some .directory) :
    fs.rename source target = .error .other := by
  simp only [rename, read_ok there, write_error h, Except.map]

/-- A text that is written under a temporary name and then put in place. -/
theorem replace_ok {directory : List String} {temporary name : String}
    (there : fs.find? directory = some .directory) (apart : temporary ≠ name)
    (file : fs.find? (directory ++ [name]) ≠ some .directory) (text : String) :
    ∃ fs', (fs.put (directory ++ [temporary]) (.file text)).rename (directory ++ [temporary])
        (directory ++ [name]) = .ok fs' ∧
      fs'.find? (directory ++ [name]) = some (.file text) ∧
      fs'.find? (directory ++ [temporary]) = none ∧
      ∀ other, (∀ entry, other ≠ directory ++ [entry]) → fs'.find? other = fs.find? other := by
  have distinct : directory ++ [temporary] ≠ directory ++ [name] := by simpa using apart
  have above : directory ≠ directory ++ [temporary] := by simp
  refine ⟨_, rename_ok (find?_put_self (by simp) _) ?_ ?_ distinct, ?_, ?_, ?_⟩
  · rw [List.dropLast_concat, find?_put_of_ne above, there]
  · rwa [find?_put_of_ne distinct.symm]
  · rw [find?_erase_of_ne distinct.symm, find?_put_self (by simp)]
  · exact find?_erase_self (by simp)
  · intro other h
    rw [find?_erase_of_ne (h temporary), find?_put_of_ne (h name), find?_put_of_ne (h temporary)]

end Entries

section Runs

variable {α : Type} {fs later : FileSystem} {path target : String} {answer : Except FileFault Unit}

theorem run_read {answer : Except FileFault String} (proper : meansDirectory path = false)
    (h : fs.read (parts path) = answer) (next : Except FileFault String → FileProgram α) :
    run (Files.read path >>= next) fs = run (next answer) fs := by
  have ran : run (Files.read path >>= next) fs =
      run (next (if meansDirectory path then .error .other else fs.read (parts path))) fs := rfl
  rw [ran, proper, if_neg Bool.false_ne_true, h]

theorem run_write {text : String} (proper : meansDirectory path = false)
    (h : fs.change (fs.write (parts path) text) = (answer, later))
    (next : Except FileFault Unit → FileProgram α) :
    run (Files.write path text >>= next) fs = run (next answer) later := by
  have ran : run (Files.write path text >>= next) fs =
      (fun r : Except FileFault Unit × FileSystem => run (next r.1) r.2)
        (fs.change (if meansDirectory path then .error .other
          else fs.write (parts path) text)) := rfl
  rw [ran, proper, if_neg Bool.false_ne_true, h]

theorem run_rename (h : fs.change (fs.rename (parts path) (parts target)) = (answer, later))
    (next : Except FileFault Unit → FileProgram α) :
    run (Files.rename path target >>= next) fs = run (next answer) later := by
  have ran : run (Files.rename path target >>= next) fs =
      (fun r : Except FileFault Unit × FileSystem => run (next r.1) r.2)
        (fs.change (fs.rename (parts path) (parts target))) := rfl
  rw [ran, h]

theorem run_remove (h : fs.change (fs.remove (parts path)) = (answer, later))
    (next : Except FileFault Unit → FileProgram α) :
    run (Files.remove path >>= next) fs = run (next answer) later := by
  have ran : run (Files.remove path >>= next) fs =
      (fun r : Except FileFault Unit × FileSystem => run (next r.1) r.2)
        (fs.change (fs.remove (parts path))) := rfl
  rw [ran, h]

theorem run_makeDirectory (h : fs.change (fs.makeDirectory (parts path)) = (answer, later))
    (next : Except FileFault Unit → FileProgram α) :
    run (Files.makeDirectory path >>= next) fs = run (next answer) later := by
  have ran : run (Files.makeDirectory path >>= next) fs =
      (fun r : Except FileFault Unit × FileSystem => run (next r.1) r.2)
        (fs.change (fs.makeDirectory (parts path))) := rfl
  rw [ran, h]

end Runs

end FileSystem

end ClusterLifecycle
