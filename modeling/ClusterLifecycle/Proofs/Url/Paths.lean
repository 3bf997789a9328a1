import ClusterLifecycle.Proofs.Digits
import ClusterLifecycle.Url.Parse
import Mathlib.Data.List.DropRight

/-!
Paths of addresses, segment by segment.

* `splitAll_append`, `splitAll_joinAll`: texts split where they were put together;
* `follow_concat`: a path follows all its segments but the last in steps;
* `Plain`: a segment that a path keeps as it is, `follow_plain`; one of letters, digits, hyphens and
  underscores is plain, `plain_of_word`;
* `directory`: where a path leads, as what is put below it sees it; `rootPath_append` and
  `stripped_rootPath` compare it with the path itself.
-/

namespace ClusterLifecycle.Url

open Text Domain

variable {c separator : Char} {text text' segment last path more : List Char}
  {done init segments parts : List (List Char)}

/-! ### Splitting -/

theorem splitAll_ne_nil (separator : Char) (text : List Char) : splitAll separator text ≠ [] := by
  cases text with
  | nil => simp [splitAll]
  | cons c text =>
    rw [splitAll]
    split
    · simp
    · split <;> simp

theorem splitAll_cons_of_ne (other : c ≠ separator) {first : List Char}
    {rest : List (List Char)} (split : splitAll separator text = first :: rest) :
    splitAll separator (c :: text) = (c :: first) :: rest := by
  rw [splitAll, if_neg other, split]

/-- A separator between two texts splits them from each other. -/
theorem splitAll_append (separator : Char) (text text' : List Char) :
    splitAll separator (text ++ separator :: text') =
      splitAll separator text ++ splitAll separator text' := by
  induction text with
  | nil => simp [splitAll]
  | cons c text ih =>
    by_cases same : c = separator
    · simp [splitAll, same, ih]
    · obtain ⟨first, rest, split⟩ := List.exists_cons_of_ne_nil (splitAll_ne_nil separator text)
      rw [splitAll_cons_of_ne same split, List.cons_append]
      rw [split, List.cons_append] at ih
      rw [splitAll_cons_of_ne same ih, List.cons_append]

theorem splitAll_of_free (free : separator ∉ text) : splitAll separator text = [text] := by
  induction text with
  | nil => rfl
  | cons c text ih =>
    obtain ⟨other, free⟩ := not_or.1 (mt List.mem_cons.2 free)
    exact splitAll_cons_of_ne (Ne.symm other) (ih free)

theorem splitAll_joinAll (filled : parts ≠ []) (free : ∀ part ∈ parts, separator ∉ part) :
    splitAll separator (joinAll separator parts) = parts := by
  induction parts with
  | nil => exact absurd rfl filled
  | cons part parts ih =>
    have head := splitAll_of_free (free part List.mem_cons_self)
    cases parts with
    | nil => exact head
    | cons part' parts =>
      have rest := ih (by simp) fun p mem => free p (List.mem_cons_of_mem _ mem)
      rw [joinAll.eq_3 _ _ _ (by simp), splitAll_append, head, rest]
      rfl

theorem mem_joinAll {d : Char} (mem : d ∈ joinAll separator parts) :
    d = separator ∨ ∃ part ∈ parts, d ∈ part := by
  induction parts with
  | nil => cases mem
  | cons part parts ih =>
    cases parts with
    | nil => exact .inr ⟨part, List.mem_cons_self, mem⟩
    | cons part' parts =>
      rw [joinAll.eq_3 _ _ _ (by simp), List.mem_append, List.mem_cons] at mem
      rcases mem with mem | rfl | mem
      · exact .inr ⟨part, List.mem_cons_self, mem⟩
      · exact .inl rfl
      · rcases ih mem with is | ⟨p, there, mem⟩
        · exact .inl is
        · exact .inr ⟨p, List.mem_cons_of_mem _ there, mem⟩

theorem mem_joinAll_of_mem {d : Char} {part : List Char} (there : part ∈ parts) (mem : d ∈ part) :
    d ∈ joinAll separator parts := by
  induction parts with
  | nil => cases there
  | cons first parts ih =>
    cases parts with
    | nil =>
      rw [List.mem_singleton.1 there] at mem
      exact mem
    | cons second parts =>
      rw [joinAll.eq_3 _ _ _ (by simp), List.mem_append, List.mem_cons]
      rcases List.mem_cons.1 there with rfl | there
      · exact .inl mem
      · exact .inr (.inr (ih there))

theorem joinAll_splitAll (separator : Char) (text : List Char) :
    joinAll separator (splitAll separator text) = text := by
  induction text with
  | nil => rfl
  | cons c text ih =>
    obtain ⟨first, rest, split⟩ := List.exists_cons_of_ne_nil (splitAll_ne_nil separator text)
    by_cases same : c = separator
    · rw [splitAll, if_pos same, same]
      rw [split] at ih ⊢
      rw [joinAll, List.nil_append, ih]
      simp
    · rw [splitAll_cons_of_ne same split]
      rw [split] at ih
      cases rest with
      | nil => exact congrArg _ ih
      | cons second rest => exact congrArg _ ih

theorem mem_of_splitAll {d : Char} {part : List Char} (there : part ∈ splitAll separator text)
    (mem : d ∈ part) : d ∈ text := by
  rw [← joinAll_splitAll separator text]
  exact mem_joinAll_of_mem there mem

/-- A text without the separator makes the last part longer. -/
theorem splitAll_append_free (text : List Char) (free : separator ∉ text') :
    ∃ init last, splitAll separator text = init ++ [last] ∧
      splitAll separator (text ++ text') = init ++ [last ++ text'] := by
  induction text with
  | nil => exact ⟨[], [], rfl, splitAll_of_free free⟩
  | cons c text ih =>
    obtain ⟨init, last, split, split'⟩ := ih
    by_cases same : c = separator
    · refine ⟨[] :: init, last, ?_, ?_⟩ <;> simp [splitAll, same, split, split']
    · cases init with
      | nil =>
        exact ⟨[], c :: last, splitAll_cons_of_ne same split, splitAll_cons_of_ne same split'⟩
      | cons first init =>
        exact ⟨(c :: first) :: init, last, splitAll_cons_of_ne same split,
          splitAll_cons_of_ne same split'⟩

theorem splitSegments_append (text text' : List Char) :
    splitSegments true (text ++ '/' :: text') =
      splitSegments true text ++ splitSegments true text' := by
  simp only [splitSegments, if_true, List.map_append, List.map_cons]
  exact splitAll_append '/' _ _

theorem splitSegments_ne_nil (text : List Char) : splitSegments true text ≠ [] :=
  splitAll_ne_nil _ _

theorem splitSegments_replicate (n : Nat) :
    splitSegments true (List.replicate n '/') = List.replicate (n + 1) [] := by
  induction n with
  | zero => rfl
  | succ n ih =>
    have step := splitSegments_append [] (List.replicate n '/')
    rw [List.nil_append, ih] at step
    exact step

/-! ### Steps along a path -/

/-- Where one more segment, behind which the path goes on, leads. -/
def step (done : List (List Char)) (segment : List Char) : List (List Char) :=
  if isDoubleDot segment then done.dropLast
  else if isSingleDot segment then done
  else done ++ [Percent.encode Percent.inPathSet segment]

/-- Where the last segment leads. Behind dots the path still ends with a slash. -/
def arrive (done : List (List Char)) (last : List Char) : List (List Char) :=
  if isDoubleDot last || isSingleDot last then step done last ++ [[]] else step done last

theorem follow_concat (done init : List (List Char)) (last : List Char) :
    follow done (init ++ [last]) = arrive (init.foldl step done) last := by
  induction init generalizing done with
  | nil =>
    rw [List.nil_append, follow, List.foldl_nil, arrive, step]
    cases isDoubleDot last <;> cases isSingleDot last <;> simp
  | cons segment init ih =>
    have more : init ++ [last] ≠ [] := by simp
    rw [List.cons_append, follow.eq_3 _ _ _ more, List.foldl_cons, ← ih, step]
    split
    · rfl
    · split <;> rfl

/-- All ways to write one dot or two, in small letters. -/
def dotted : List (List Char) :=
  ["..".toList, ".%2e".toList, "%2e.".toList, "%2e%2e".toList, ".".toList, "%2e".toList]

theorem isDot_lower (dot : isDoubleDot segment || isSingleDot segment) :
    lower segment ∈ dotted := by
  have back {s : String} (is : String.ofList (lower segment) = s) : lower segment = s.toList := by
    rw [← is, String.toList_ofList]
  simp only [isDoubleDot, isSingleDot, List.contains_eq_mem, List.mem_cons, List.not_mem_nil,
    or_false, Bool.or_eq_true, decide_eq_true_eq] at dot
  rcases dot with (is | is | is | is) | (is | is) <;> rw [back is] <;> decide

/-- Dots are written in a few characters. -/
theorem isDot_mem (dot : isDoubleDot segment || isSingleDot segment) :
    ∀ c ∈ segment, c.toLower ∈ ".%2e".toList := by
  intro c mem
  have few : dotted.all (fun dots => dots.all (".%2e".toList.contains ·)) = true := by decide
  have all := List.all_eq_true.1 few _ (isDot_lower dot)
  exact List.contains_iff_mem.1 (List.all_eq_true.1 all _ (List.mem_map_of_mem mem))

theorem isDot_head? (dot : isDoubleDot segment || isSingleDot segment) :
    ∃ c ∈ segment, c.toLower = '.' ∨ c.toLower = '%' := by
  have opens : dotted.all (fun dots => dots.any fun d => d = '.' || d = '%') = true := by decide
  have any := List.all_eq_true.1 opens _ (isDot_lower dot)
  obtain ⟨d, mem, is⟩ := List.any_eq_true.1 any
  obtain ⟨c, there, rfl⟩ := List.mem_map.1 mem
  exact ⟨c, there, by simpa using is⟩

/-! ### Segments that stay as they are -/

/-- A segment that a path keeps, and keeps as it is. -/
structure Plain (segment : List Char) : Prop where
  dot : (isDoubleDot segment || isSingleDot segment) = false
  encoded : Percent.encode Percent.inPathSet segment = segment

theorem Plain.step (plain : Plain segment) : step done segment = done ++ [segment] := by
  obtain ⟨two, one⟩ := Bool.or_eq_false_iff.1 plain.dot
  simp [Url.step, two, one, plain.encoded]

theorem Plain.arrive (plain : Plain segment) : arrive done segment = done ++ [segment] := by
  rw [Url.arrive, plain.dot, plain.step]
  rfl

theorem foldl_step_plain (plain : ∀ segment ∈ segments, Plain segment) :
    segments.foldl step done = done ++ segments := by
  induction segments generalizing done with
  | nil => simp
  | cons segment segments ih =>
    rw [List.foldl_cons, (plain segment List.mem_cons_self).step,
      ih fun s mem => plain s (List.mem_cons_of_mem _ mem)]
    simp

theorem follow_plain (plain : ∀ segment ∈ segments, Plain segment) :
    follow done segments = done ++ segments := by
  rcases List.eq_nil_or_concat' segments with rfl | ⟨init, last, rfl⟩
  · simp [follow]
  · rw [follow_concat, foldl_step_plain fun s mem => plain s (by simp [mem]),
      (plain last (by simp)).arrive]
    simp

/-- A character of names that every path keeps as it is. -/
def isWord (c : Char) : Bool := c.isAlphanum || c = '-' || c = '_'

/-- What is so of the word characters in ASCII is so of all. -/
theorem of_word {p : Char → Prop} (all : ∀ n < 128, isWord (Char.ofNat n) → p (Char.ofNat n))
    (word : isWord c) : p c := by
  refine of_ascii (p := fun c => isWord c → p c) all ?_ word
  simp only [isWord, Bool.or_eq_true, decide_eq_true_eq] at word
  rcases word with (letter | rfl) | rfl
  · exact ascii_of_alphanum letter
  · decide
  · decide

theorem encode_of_free {inSet : Char → Bool} (free : ∀ c ∈ text, inSet c = false) :
    Percent.encode inSet text = text := by
  induction text with
  | nil => rfl
  | cons c text ih =>
    have rest := ih fun d mem => free d (List.mem_cons_of_mem _ mem)
    unfold Percent.encode at rest ⊢
    rw [List.flatMap_cons, rest, free c List.mem_cons_self]
    rfl

theorem plain_of_word (word : ∀ c ∈ segment, isWord c) : Plain segment := by
  constructor
  · rw [Bool.eq_false_iff]
    intro dot
    obtain ⟨c, mem, is⟩ := isDot_head? dot
    have other := of_word (p := fun c => ¬ (c.toLower = '.' ∨ c.toLower = '%')) (by decide)
      (word c mem)
    exact other is
  · exact encode_of_free fun c mem =>
      of_word (p := fun c => Percent.inPathSet c = false) (by decide) (word c mem)

/-! ### Directories -/

/-- The segments of a path that starts with a slash, or has nothing in it. -/
def segmentsOf : List Char → List (List Char)
  | [] => []
  | _ :: rest => splitSegments true rest

/-- Where a path leads, as what is put below it sees it. -/
def directory (path : List Char) : List (List Char) := (segmentsOf path).foldl step []

/-- The segments of a path without the empty ones at its end. -/
def stripped (parts : List (List Char)) : List (List Char) := parts.rdropWhile List.isEmpty

/-- What a path is followed by stands below its directory. -/
theorem rootPath_append (rooted : path.head?.all (isSlash true) = true) (more : List Char) :
    rootPath true (path ++ '/' :: more) =
      .segments (follow [] (segmentsOf path ++ splitSegments true more)) := by
  cases path with
  | nil => simp [rootPath, isSlash, segmentsOf]
  | cons c path =>
    have slash : isSlash true c = true := rooted
    rw [List.cons_append, rootPath, if_pos slash, splitSegments_append, segmentsOf]

theorem rootPath_cons {path : List Char} (slash : isSlash true c = true) :
    rootPath true (c :: path) = .segments (follow [] (splitSegments true path)) := by
  rw [rootPath, if_pos slash]

theorem plain_nil : Plain [] := plain_of_word (by simp)

theorem rootPath_below (rooted : path.head?.all (isSlash true) = true)
    (plain : ∀ segment ∈ splitSegments true more, Plain segment) :
    rootPath true (path ++ '/' :: more) =
      .segments (directory path ++ splitSegments true more) := by
  have nonempty := splitSegments_ne_nil more
  rw [rootPath_append rooted, directory]
  rcases List.eq_nil_or_concat' (splitSegments true more) with empty | ⟨init, last, split⟩
  · exact absurd empty nonempty
  · rw [split] at plain ⊢
    rw [← List.append_assoc, follow_concat, List.foldl_append,
      foldl_step_plain fun s mem => plain s (by simp [mem]), (plain last (by simp)).arrive]
    simp

/-- Slashes behind a path add nothing but empty segments. -/
theorem rootPath_slashes (rooted : path.head?.all (isSlash true) = true) (n : Nat) :
    rootPath true (path ++ List.replicate (n + 1) '/') =
      .segments (directory path ++ List.replicate (n + 1) []) := by
  have plain : ∀ segment ∈ splitSegments true (List.replicate n '/'), Plain segment := by
    rw [splitSegments_replicate]
    intro segment mem
    rw [List.eq_of_mem_replicate mem]
    exact plain_nil
  rw [List.replicate_succ, rootPath_below rooted plain, splitSegments_replicate]

theorem stripped_concat_nil (parts : List (List Char)) : stripped (parts ++ [[]]) = stripped parts :=
  List.rdropWhile_concat_pos _ _ _ rfl

theorem stripped_append_replicate (parts : List (List Char)) (n : Nat) :
    stripped (parts ++ List.replicate n []) = stripped parts := by
  induction n with
  | zero => rw [List.replicate_zero, List.append_nil]
  | succ n ih => rw [List.replicate_succ', ← List.append_assoc, stripped_concat_nil, ih]

theorem length_stripped (parts : List (List Char)) : (stripped parts).length ≤ parts.length :=
  (List.rdropWhile_prefix _ _).length_le

theorem stripped_arrive (done : List (List Char)) (last : List Char) :
    stripped (arrive done last) = stripped (step done last) := by
  unfold arrive
  split
  · exact stripped_concat_nil _
  · rfl

/-- The path of an address and its directory differ in empty segments at their ends only. -/
theorem stripped_rootPath (rooted : path.head?.all (isSlash true) = true)
    (is : rootPath true path = .segments parts) : stripped parts = stripped (directory path) := by
  cases path with
  | nil =>
    cases is
    rfl
  | cons c path =>
    rw [rootPath_cons rooted] at is
    rw [← Path.segments.inj is, directory, segmentsOf]
    rcases List.eq_nil_or_concat' (splitSegments true path) with empty | ⟨init, last, split⟩
    · exact absurd empty (splitSegments_ne_nil path)
    · rw [split, follow_concat, stripped_arrive, List.foldl_append]
      rfl

theorem length_arrive_le (done : List (List Char)) (last : List Char) :
    (arrive done last).length ≤ done.length + 1 := by
  unfold arrive step
  cases isDoubleDot last <;> cases isSingleDot last <;> simp

theorem splitSegments_append_free (text : List Char) (slash : '/' ∉ text')
    (backslash : '\\' ∉ text') :
    ∃ init last, splitSegments true text = init ++ [last] ∧
      splitSegments true (text ++ text') = init ++ [last ++ text'] := by
  have same : text'.map (fun c => if c = '\\' then '/' else c) = text' := by
    have each : ∀ c ∈ text', (if c = '\\' then '/' else c) = id c := by
      intro c mem
      refine if_neg ?_
      rintro rfl
      exact backslash mem
    rw [List.map_congr_left each, List.map_id]
  have split := splitAll_append_free (text.map fun c => if c = '\\' then '/' else c) slash
  simpa [splitSegments, same] using split

/-- A path that more characters stand behind, none of which ends a segment or can stand in dots,
leads as deep at least. -/
theorem length_stripped_le (filled : path ≠ []) (rooted : path.head?.all (isSlash true) = true)
    (is : rootPath true path = .segments parts) (some_ : more ≠ [])
    (other : ∀ c ∈ more, c ≠ '/' ∧ c ≠ '\\' ∧ c.toLower ∉ ".%2e".toList) :
    (stripped parts).length ≤ (directory (path ++ more)).length := by
  cases path with
  | nil => exact absurd rfl filled
  | cons c path =>
    obtain ⟨init, last, split, split'⟩ := splitSegments_append_free path
      (fun mem => (other _ mem).1 rfl) (fun mem => (other _ mem).2.1 rfl)
    rw [rootPath_cons rooted, split, follow_concat] at is
    have kept : (isDoubleDot (last ++ more) || isSingleDot (last ++ more)) = false := by
      rw [Bool.eq_false_iff]
      intro dot
      obtain ⟨d, mem⟩ := List.exists_mem_of_ne_nil more some_
      exact (other d mem).2.2 (isDot_mem dot d (List.mem_append_right _ mem))
    obtain ⟨two, one⟩ := Bool.or_eq_false_iff.1 kept
    have deep : (directory (c :: path ++ more)).length = (init.foldl step []).length + 1 := by
      rw [directory, List.cons_append, segmentsOf, split', List.foldl_append, List.foldl_cons,
        List.foldl_nil, step, if_neg (by simp [two]), if_neg (by simp [one])]
      simp
    calc (stripped parts).length
        ≤ parts.length := length_stripped parts
      _ = (arrive (init.foldl step []) last).length := by rw [← Path.segments.inj is]
      _ ≤ _ := length_arrive_le _ _
      _ = _ := deep.symm

end ClusterLifecycle.Url
