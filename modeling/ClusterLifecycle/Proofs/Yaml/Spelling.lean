import ClusterLifecycle.Proofs.Yaml.Splicing

/-!
What a document says, however its texts are written. Where texts are put in as they are, a document
says what was put in exactly if every text stands for itself.

* `Document.Spells`: the tree at a node says a value;
* `spells_iff`: which texts a document with texts put in says.
-/

namespace ClusterLifecycle.Yaml

open Text Lexer Value

namespace Document

mutual

/-- The tree at the node says the value, and nothing besides. -/
def Spells (d : Document) : Value → Node → Prop
  | .text s, n | .word s, n => d.text? n = some s
  | .sequence items, n => ∃ nodes, d.items? n = some nodes ∧ d.ItemsSpelled items nodes
  | .mapping fields, n => ∃ named, d.fields? n = some named ∧ d.FieldsSpelled fields named

def ItemsSpelled (d : Document) : List Value → List Node → Prop
  | [], [] => True
  | x :: xs, n :: ns => d.Spells x n ∧ d.ItemsSpelled xs ns
  | _, _ => False

def FieldsSpelled (d : Document) : List (String × Value) → List (String × Node) → Prop
  | [], [] => True
  | (key, v) :: fields, (name, n) :: named =>
    key = name ∧ d.Spells v n ∧ d.FieldsSpelled fields named
  | _, _ => False

end

end Document

open Document

variable {d : Document}

mutual

/-- The tree of a value says it. -/
theorem spells_node (v : Value) : d.Spells v v.node := by
  match v with
  | .text s => exact text?_text s
  | .word s => rfl
  | .sequence items => exact ⟨_, items?_sequence items, itemsSpelled_node items⟩
  | .mapping fields => exact ⟨_, fields?_mapping fields, fieldsSpelled_node fields⟩

theorem itemsSpelled_node (items : List Value) : d.ItemsSpelled items (items.map node) := by
  match items with
  | [] => trivial
  | x :: xs => exact ⟨spells_node x, itemsSpelled_node xs⟩

theorem fieldsSpelled_node (fields : List (String × Value)) :
    d.FieldsSpelled fields (named fields) := by
  match fields with
  | [] => trivial
  | (key, v) :: rest => exact ⟨rfl, spells_node v, fieldsSpelled_node rest⟩

end

mutual

/-- What is heard says the value only if it is the value. -/
theorem eq_of_spells {v w : Value} (heard : v.heard? = some w) (spells : d.Spells v w.node) :
    w = v := by
  match v with
  | .text _ | .sequence _ =>
    cases heard
    rfl
  | .word s =>
    obtain ⟨t, taken, rfl⟩ := Option.map_eq_some_iff.1 heard
    exact congrArg Value.word (Option.some.inj spells)
  | .mapping fields =>
    obtain ⟨fields', heard', rfl⟩ := Option.map_eq_some_iff.1 heard
    obtain ⟨named', read, spelled⟩ := spells
    rw [fields?_mapping] at read
    cases read
    exact congrArg mapping (eq_of_fieldsSpelled heard' spelled)

theorem eq_of_fieldsSpelled {fields fields' : List (String × Value)}
    (heard : fieldsHeard? fields = some fields')
    (spelled : d.FieldsSpelled fields (named fields')) : fields' = fields := by
  match fields with
  | [] =>
    cases heard
    rfl
  | (key, v) :: rest =>
    obtain ⟨w, here, later⟩ := Option.bind_eq_some_iff.1 heard
    obtain ⟨rest', there, rfl⟩ := Option.map_eq_some_iff.1 later
    obtain ⟨-, spells, spelled⟩ := spelled
    rw [eq_of_spells here spells, eq_of_fieldsSpelled there spelled]

end

namespace Value

mutual

/-- The texts in it that are put in as they are. -/
def words : Value → List String
  | .word s => [s]
  | .mapping fields => fieldWords fields
  | _ => []

def fieldWords : List (String × Value) → List String
  | [] => []
  | (_, v) :: rest => v.words ++ fieldWords rest

end

end Value

mutual

/-- A value is heard as it is where each text is taken whole. -/
theorem heard?_eq_self (v : Value) :
    v.heard? = some v ↔ ∀ s ∈ v.words, bareText? s.toList = some s.toList := by
  match v with
  | .text _ | .sequence _ => simp [heard?, words]
  | .word s =>
    have same (t : List Char) : String.ofList t = s ↔ t = s.toList := by
      rw [← String.toList_inj, String.toList_ofList]
    simp [heard?, words, same]
  | .mapping fields =>
    have fields' := fieldsHeard?_eq_self fields
    simpa [heard?, words] using fields'

theorem fieldsHeard?_eq_self (fields : List (String × Value)) :
    fieldsHeard? fields = some fields ↔
      ∀ s ∈ fieldWords fields, bareText? s.toList = some s.toList := by
  match fields with
  | [] => simp [fieldsHeard?, fieldWords]
  | (key, v) :: rest =>
    have both : fieldsHeard? ((key, v) :: rest) = some ((key, v) :: rest) ↔
        v.heard? = some v ∧ fieldsHeard? rest = some rest := by
      rw [fieldsHeard?]
      cases v.heard? <;> cases fieldsHeard? rest <;> simp
    rw [both, heard?_eq_self v, fieldsHeard?_eq_self rest, fieldWords, List.forall_mem_append]

end

section
variable {f : Char → Bool} (passes : ∀ c, isPrintable c = true → f c = true)
include passes

theorem Written.all {s : List Char} (h : Written s) : s.all f = true :=
  List.all_eq_true.2 fun c hc => passes c (h c hc)

mutual

/-- A test that printable characters pass is one of the texts that are put in. -/
theorem all_afterColon (n : Nat) (v : Value) (spliced : v.Spliced) :
    (afterColon n v).all f = v.words.all fun s => s.toList.all f := by
  match v, spliced with
  | .text _, sound | .sequence _, sound =>
    exact (written_afterColon n _ sound).all passes
  | .word s, _ =>
    have space := passes ' ' (by decide)
    have lineEnd := passes '\n' (by decide)
    simp [afterColon, words, space, lineEnd]
  | .mapping [], spliced => exact absurd rfl spliced.1
  | .mapping (g :: fs), spliced =>
    have lineEnd := passes '\n' (by decide)
    have margin := (Written.spaces (n + 2)).all passes
    have fields := all_fieldLines (n + 2) (g :: fs) spliced.2
    simp [afterColon, words, lineEnd, margin, fields]

theorem all_fieldLines (n : Nat) (fields : List (String × Value))
    (spliced : FieldsSpliced fields) :
    (fieldLines n fields).all f = (fieldWords fields).all fun s => s.toList.all f := by
  match fields, spliced with
  | [], _ => rfl
  | (key, v) :: rest, spliced =>
    have key_ := (Written.keyText n key.toList).all passes
    have value := all_afterColon n v spliced.2.1
    have margin : (if rest.isEmpty then [] else spaces n).all f = true := by
      split
      · rfl
      · exact (Written.spaces n).all passes
    have later := all_fieldLines n rest spliced.2.2
    rw [fieldLines, fieldWords]
    simp only [List.all_append, key_, value, margin, later, Bool.true_and, Bool.and_true]

end

end

mutual

theorem unmarked_of_spliced {v : Value} (spliced : v.Spliced) :
    ∀ s ∈ v.words, Unmarked s.toList := by
  match v, spliced with
  | .text _, _ | .sequence _, _ => simp [words]
  | .word s, unmarked => exact List.forall_mem_singleton.2 unmarked
  | .mapping fields, spliced => exact unmarked_of_fieldsSpliced spliced.2

theorem unmarked_of_fieldsSpliced {fields : List (String × Value)}
    (spliced : FieldsSpliced fields) : ∀ s ∈ fieldWords fields, Unmarked s.toList := by
  match fields, spliced with
  | [], _ => simp [fieldWords]
  | (_, v) :: rest, spliced =>
    rw [fieldWords, List.forall_mem_append]
    exact ⟨unmarked_of_spliced spliced.2.1, unmarked_of_fieldsSpliced spliced.2.2⟩

end

/-- Only a text without forbidden characters has a reading. -/
theorem allowed_of_document? {text : List Char} (h : document? text = some d) :
    text.all isAllowed = true := by
  cases allowed : text.all isAllowed with
  | true => rfl
  | false => simp [document?, tokens?, allowed] at h

/-- A document into which texts are put as they are says what was put in exactly if each of the
texts stands for itself. -/
theorem spells_iff {fields : List (String × Value)} (some_ : fields ≠ [])
    (spliced : FieldsSpliced fields) :
    (∃ d, document? (render (.mapping fields)).toList = some d ∧
      d.Spells (.mapping fields) d.root) ↔ ∀ s ∈ fieldWords fields, Bare s.toList := by
  have text : (render (.mapping fields)).toList = fieldLines 0 fields := by
    cases fields with
    | nil => contradiction
    | cons f fs => rw [render, String.toList_ofList]
  have unmarked := unmarked_of_fieldsSpliced spliced
  have allowed : (render (.mapping fields)).toList.all isAllowed = true ↔
      ∀ s ∈ fieldWords fields, s.toList.all isAllowed = true := by
    rw [text, all_fieldLines (fun c => isAllowed_of_isPrintable) 0 fields spliced,
      List.all_eq_true]
  have uniform : ∀ c ∈ (render (.mapping fields)).toList, c ≠ '\r' ∧ c ≠ '\u0085' := by
    have plain : (fieldLines 0 fields).all (fun c => c ≠ '\r' && c ≠ '\u0085') = true := by
      rw [all_fieldLines ?_ 0 fields spliced, List.all_eq_true]
      · intro s hs
        refine List.all_eq_true.2 fun c hc => ?_
        have inLine := List.any_eq_false.1 (unmarked s hs).oneLine c hc
        simp only [isLineEnd, Bool.or_eq_true, not_or, decide_eq_true_eq] at inLine
        simpa using And.intro inLine.1.2 inLine.2
      · intro c printable
        simp only [Bool.and_eq_true, decide_eq_true_eq]
        refine ⟨?_, ?_⟩
        all_goals
          rintro rfl
          exact absurd printable (by decide)
    rw [text]
    simpa using plain
  constructor
  · rintro ⟨d, read, spells⟩
    have allowed_ := allowed_of_document? read
    rw [document?_spliced some_ spliced allowed_ uniform] at read
    obtain ⟨heard, hears, rfl⟩ := Option.map_eq_some_iff.1 read
    obtain ⟨named', fields_, spelled⟩ := spells
    rw [fields?_mapping] at fields_
    cases fields_
    rw [eq_of_fieldsSpelled hears spelled] at hears
    intro s hs
    exact (bare_iff (unmarked s hs)).2
      ⟨allowed.1 allowed_ s hs, (fieldsHeard?_eq_self fields).1 hears s hs⟩
  · intro bare
    have read := document?_spliced some_ spliced
      (allowed.2 fun s hs => (bare s hs).allowed) uniform
    rw [(fieldsHeard?_eq_self fields).2 fun s hs => (bare s hs).taken] at read
    exact ⟨_, read, spells_node _⟩

end ClusterLifecycle.Yaml
