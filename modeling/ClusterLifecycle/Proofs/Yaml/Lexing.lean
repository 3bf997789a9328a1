import ClusterLifecycle.Proofs.Yaml.Scalars

/-!
A written value as tokens. Collections are closed by the indentation of what follows them, so every
statement here says where the next token stands.

* `Value.tokens`: the tokens that a value is to be read as;
* `reads_afterColon` and those with it: it is read as these, at every depth.
-/

namespace ClusterLifecycle.Yaml

open Text Lexer

namespace Value

mutual

/-- The words in it, which are written as they are, read back as they are. -/
def Sound : Value → Prop
  | .text _ => True
  | .word s => IsWord s.toList
  | .sequence items => ItemsSound items
  | .mapping fields => FieldsSound fields

def ItemsSound : List Value → Prop
  | [] => True
  | x :: rest => x.Sound ∧ ItemsSound rest

def FieldsSound : List (String × Value) → Prop
  | [] => True
  | (_, value) :: rest => value.Sound ∧ FieldsSound rest

end

mutual

/-- The tokens of a value. A sequence may be no further indented than the key before it. -/
def tokens (indentless : Bool) : Value → List Token
  | .text s => [scalarToken s]
  | .word s => [.scalar s true]
  | .sequence [] => [.flowSequence, .flowSequenceEnd]
  | .sequence (x :: xs) =>
    if indentless then itemTokens (x :: xs)
    else .blockSequence :: itemTokens (x :: xs) ++ [.blockEnd]
  | .mapping [] => [.flowMapping, .flowMappingEnd]
  | .mapping (f :: fs) => .blockMapping :: fieldTokens (f :: fs) ++ [.blockEnd]

def itemTokens : List Value → List Token
  | [] => []
  | x :: rest => .item :: x.tokens false ++ itemTokens rest

def fieldTokens : List (String × Value) → List Token
  | [] => []
  | (key, value) :: rest =>
    .key :: scalarToken key :: .value :: value.tokens true ++ fieldTokens rest

end

end Value

open Value

/-- Tokens that come after those already there. -/
def Lexer.Settled.emitAll (tokens : List Token) (d : Settled) : Settled :=
  { d with tokens := tokens.reverse ++ d.tokens }

namespace Lexer.Settled

theorem emitAll_emitAll (s t : List Token) (d : Settled) :
    (d.emitAll s).emitAll t = d.emitAll (s ++ t) := by
  simp [emitAll]

theorem indent_enter {column : Nat} {t : Token} {d : Settled} (h : d.indent ≤ column) :
    (d.enter column t).indent = column := by
  unfold enter
  split
  · omega
  · rfl

end Lexer.Settled

/-- What follows the dash of an item, with the items after it. -/
def behindDash (n : Nat) (x : Value) (xs : List Value) : List Char :=
  afterDash n x ++ (if xs.isEmpty then [] else spaces n) ++ itemLines n xs

theorem itemLines_cons (n : Nat) (x : Value) (xs : List Value) :
    itemLines n (x :: xs) = '-' :: behindDash n x xs := by
  simp [itemLines, behindDash]

theorem behindDash_nil (n : Nat) (x : Value) : behindDash n x [] = afterDash n x := by
  simp [behindDash, itemLines]

theorem behindDash_cons (n : Nat) (x y : Value) (ys : List Value) :
    behindDash n x (y :: ys) = afterDash n x ++ spaces n ++ itemLines n (y :: ys) := rfl

/-- What follows the colon of a field, with the fields after it. -/
def behindColon (n : Nat) (v : Value) (fs : List (String × Value)) : List Char :=
  afterColon n v ++ (if fs.isEmpty then [] else spaces n) ++ fieldLines n fs

theorem fieldLines_cons (n : Nat) (key : String) (v : Value) (fs : List (String × Value)) :
    fieldLines n ((key, v) :: fs) = keyText n key.toList ++ behindColon n v fs := by
  simp [fieldLines, behindColon]

theorem behindColon_nil (n : Nat) (v : Value) : behindColon n v [] = afterColon n v := by
  simp [behindColon, fieldLines]

theorem behindColon_cons (n : Nat) (v : Value) (f : String × Value)
    (fs : List (String × Value)) :
    behindColon n v (f :: fs) = afterColon n v ++ spaces n ++ fieldLines n (f :: fs) := rfl

theorem endsWord_afterColon (n : Nat) (v : Value) (k : List Char) :
    endsWord (afterColon n v ++ k) = true := by
  cases v with
  | text | word => rfl
  | sequence items => cases items <;> rfl
  | mapping fields => cases fields <;> rfl

theorem endsWord_afterDash (n : Nat) (v : Value) (k : List Char) :
    endsWord (afterDash n v ++ k) = true := by
  cases v with
  | text | word => rfl
  | sequence items => cases items <;> rfl
  | mapping fields => cases fields <;> rfl

theorem endsWord_behindDash (n : Nat) (x : Value) (xs : List Value) (k : List Char) :
    endsWord (behindDash n x xs ++ k) = true := by
  rw [behindDash, List.append_assoc, List.append_assoc]
  exact endsWord_afterDash n x _

theorem endsWord_behindColon (n : Nat) (v : Value) (fs : List (String × Value)) (k : List Char) :
    endsWord (behindColon n v fs ++ k) = true := by
  rw [behindColon, List.append_assoc, List.append_assoc]
  exact endsWord_afterColon n v _

theorem opensToken_itemLines (n : Nat) (x : Value) (xs : List Value) (k : List Char) :
    opensToken (itemLines n (x :: xs) ++ k) = true := by
  simp [itemLines_cons, opensToken, isBlank, isBreak]

theorem opensToken_keyText (n : Nat) (key : String) (k : List Char) :
    opensToken (keyText n key.toList ++ k) = true := by
  unfold keyText
  split
  next simple =>
    obtain ⟨oneLine, _⟩ : key.toList.any isBreak = false ∧ byteLength key.toList ≤ 128 := by
      simpa [isSimpleKey] using simple
    have noBlock := styleOf_ne_block oneLine
    rw [scalarLines_inline noBlock, List.dropLast_concat]
    cases style : styleOf key.toList with
    | plain =>
      have word := isWord_of_plain style
      cases text : key.toList with
      | nil => exact absurd text word.some_
      | cons c s =>
        rw [text] at word style
        have same : inlineText (n + 2) (c :: s) = c :: s := by simp [inlineText, style]
        rw [same, List.append_assoc]
        exact word.opensToken _
    | single => simp [inlineText, style, opensToken, isBlank, isBreak]
    | double => simp [inlineText, style, opensToken, isBlank, isBreak]
    | block => exact absurd style noBlock
  next => simp [opensToken, isBlank, isBreak]

theorem opensToken_fieldLines (n : Nat) (f : String × Value) (rest : List (String × Value))
    (k : List Char) : opensToken (fieldLines n (f :: rest) ++ k) = true := by
  obtain ⟨key, value⟩ := f
  rw [fieldLines_cons, List.append_assoc]
  exact opensToken_keyText n key _

section
variable {p : Position} {d : Settled} {k : List Char} {n : Nat}

/-- A key in either form, with its colon. -/
theorem reads_key (key : String) (there : p.column = n) (near : d.indent ≤ n)
    (ends : endsWord k = true) :
    ∃ (q : Position) (allowed : Bool), n < q.column ∧
      Reads (inBlock true none p d (keyText n key.toList ++ k))
        (inBlock allowed none q
          ((d.enter n .blockMapping).emitAll [.key, scalarToken key, .value]) k) := by
  unfold keyText
  split
  next simple =>
    obtain ⟨q, column, reads⟩ := reads_simpleKey simple there near ends
    refine ⟨q, false, column, ?_⟩
    rw [List.append_assoc]
    exact reads
  next =>
    subst there
    have entered : (d.enter p.column .blockMapping).indent = p.column :=
      Settled.indent_enter near
    let d' := (d.enter p.column .blockMapping).emit .key
    obtain ⟨q, column, reads⟩ := reads_scalarLine true (p := p.next.next) (d := d') (k := ':' :: k)
      (m := p.column) key entered (by simp only [Position.next]; omega) (Nat.le_refl _)
      (by simp [opensToken, isBlank, isBreak])
    refine ⟨q.next, true, by simp only [Position.next]; omega, ?_⟩
    have text :
        '?' :: ' ' :: scalarLines (p.column + 2) key.toList ++ spaces p.column ++ [':'] ++ k =
        '?' :: ' ' :: (scalarLines (p.column + 2) key.toList ++ (spaces p.column ++ ':' :: k)) := by
      simp
    rw [text]
    exact (reads_markedKey near rfl).trans (reads_space.trans
      (reads.trans (reads_colon (by rw [column]; exact entered) ends)))

end

/-- The text is read as these tokens, up to the next one, which stands on a line of its own. -/
def ReadsLines (allowed : Bool) (p : Position) (d : Settled) (text : List Char) (column : Nat)
    (k : List Char) (tokens : List Token) : Prop :=
  ∃ q : Position, q.column = column ∧
    Reads (inBlock allowed none p d (text ++ (spaces column ++ k)))
      (inBlock true none q (d.emitAll tokens) k)

namespace ReadsLines

variable {allowed : Bool} {p : Position} {d : Settled} {s t k : List Char} {n m : Nat}
  {front back : List Token}

theorem of_space (h : ReadsLines allowed p.next d s m k front) :
    ReadsLines allowed p d (' ' :: s) m k front := by
  obtain ⟨q, column, reads⟩ := h
  exact ⟨q, column, reads_space.trans reads⟩

theorem of_break (opens : opensToken (s ++ (spaces m ++ k)) = true)
    (h : ∀ q : Position, q.column = n → ReadsLines true q d s m k front) :
    ReadsLines allowed p d ('\n' :: spaces n ++ s) m k front := by
  obtain ⟨q, column, lineEnd⟩ := reads_lineEnd allowed (n := n) (p := p) (d := d) (k := none)
    opens nofun
  obtain ⟨q', column', reads⟩ := h q column
  refine ⟨q', column', ?_⟩
  rw [List.append_assoc, List.cons_append]
  exact lineEnd.trans reads

/-- Lines that follow are read after those before them. -/
theorem append (h : ReadsLines allowed p d s n (t ++ (spaces m ++ k)) front)
    (h' : ∀ q : Position, q.column = n → ReadsLines true q (d.emitAll front) t m k back) :
    ReadsLines allowed p d (s ++ spaces n ++ t) m k (front ++ back) := by
  obtain ⟨q, column, reads⟩ := h
  obtain ⟨q', column', reads'⟩ := h' q column
  rw [Settled.emitAll_emitAll] at reads'
  refine ⟨q', column', ?_⟩
  rw [List.append_assoc, List.append_assoc]
  exact reads.trans reads'

/-- An item of a sequence that is open. -/
theorem of_item (there : d.indent = p.column) (ends : endsWord (s ++ (spaces m ++ k)) = true)
    (h : ReadsLines true p.next (d.emitAll [.item]) s m k front) :
    ReadsLines true p d ('-' :: s) m k (.item :: front) := by
  obtain ⟨q, column, reads⟩ := h
  have item := reads_item (Int.le_of_eq there) ends
  rw [Settled.enter_open there] at item
  rw [Settled.emitAll_emitAll] at reads
  exact ⟨q, column, item.trans reads⟩

/-- A field of a mapping, whether it is open or opens with this field. -/
theorem of_field (key : String) (there : p.column = n)
    (ends : endsWord (s ++ (spaces m ++ k)) = true) (near : d.indent ≤ n)
    (h : ∀ (allowed : Bool) (q : Position), n < q.column → ReadsLines allowed q
      ((d.enter n .blockMapping).emitAll [.key, scalarToken key, .value]) s m k front) :
    ∃ q : Position, q.column = m ∧
      Reads (inBlock true none p d (keyText n key.toList ++ s ++ (spaces m ++ k)))
        (inBlock true none q ((d.enter n .blockMapping).emitAll
          (.key :: scalarToken key :: .value :: front)) k) := by
  obtain ⟨q, allowed, far, key_⟩ := reads_key key there near ends
  obtain ⟨q', column, reads⟩ := h allowed q far
  rw [Settled.emitAll_emitAll] at reads
  refine ⟨q', column, ?_⟩
  rw [List.append_assoc]
  exact key_.trans reads

/-- What was opened is closed where the next token stands further out. -/
theorem close {q : Position} {t : Token} (opens : opensToken k = true) (shallow : q.column < n) :
    Reads (inBlock true none q
        ((⟨n, d.indent :: d.outer, t :: d.tokens⟩ : Settled).emitAll front) k)
      (inBlock true none q (d.emitAll (t :: front ++ [.blockEnd])) k) := by
  have closed : Reads
      (inBlock true none q ⟨n, d.indent :: d.outer, front.reverse ++ t :: d.tokens⟩ k)
      (inBlock true none q ⟨d.indent, d.outer, .blockEnd :: (front.reverse ++ t :: d.tokens)⟩ k) :=
    reads_close opens (by omega)
  simpa [Settled.emitAll] using closed

end ReadsLines

section
variable {allowed : Bool} {p : Position} {d : Settled} {k : List Char} {n m : Nat}

theorem readsLines_text (s : String) (there : d.indent = n) (off : n < p.column) (shallow : m ≤ n)
    (opens : opensToken k = true) :
    ReadsLines allowed p d (' ' :: scalarLines (n + 2) s.toList) m k [scalarToken s] :=
  .of_space (reads_scalarLine allowed s there (Nat.lt_succ_of_lt off) shallow opens)

theorem readsLines_word {s : String} (word : IsWord s.toList) (there : d.indent = n)
    (off : n < p.column) (shallow : m ≤ n) (opens : opensToken k = true) :
    ReadsLines allowed p d (' ' :: s.toList ++ ['\n']) m k [.scalar s true] := by
  obtain ⟨q, column, reads⟩ :=
    reads_wordLine allowed (p := p.next) word there (Nat.lt_succ_of_lt off) shallow opens
  rw [String.ofList_toList] at reads
  have text : ' ' :: s.toList ++ ['\n'] = ' ' :: (s.toList ++ ['\n']) := rfl
  rw [text]
  refine .of_space ⟨q, column, ?_⟩
  rw [List.append_assoc]
  exact reads

/-- An empty collection, in brackets. -/
theorem readsLines_empty {opening closing : Char} {t t' : Token}
    (brackets : ∀ k : List Char, Reads (inBlock allowed none p.next d (opening :: closing :: k))
      (inBlock false (candidateAt allowed p.next d) p.next.next.next ((d.emit t).emit t') k))
    (off : d.indent < p.column) (opens : opensToken k = true) :
    ReadsLines allowed p d [' ', opening, closing, '\n'] m k [t, t'] := by
  have off' : d.indent < p.next.column := by
    simp only [Position.next]
    omega
  obtain ⟨q, column, lineEnd⟩ := reads_lineEnd false (n := m) (k := candidateAt allowed p.next d)
    (p := p.next.next.next) (d := d.emitAll [t, t']) opens fun c hc => by
      obtain ⟨optional, start⟩ := candidateAt_optional off' hc
      exact ⟨optional, by rw [start]; exact Nat.le_refl _⟩
  exact .of_space ⟨q, column, (brackets _).trans lineEnd⟩

end

mutual

theorem reads_afterColon (v : Value) (sound : v.Sound) {allowed : Bool} {p : Position}
    {d : Settled} {k : List Char} {n m : Nat} (there : d.indent = n) (off : n < p.column)
    (shallow : m ≤ n) (opens : opensToken k = true) :
    ReadsLines allowed p d (afterColon n v) m k (v.tokens true) := by
  have off' : d.indent < p.next.column := by
    simp only [Position.next]
    omega
  match v, sound with
  | .text s, _ => exact readsLines_text s there off shallow opens
  | .word s, isWord => exact readsLines_word isWord there off shallow opens
  | .sequence [], _ =>
    exact readsLines_empty (fun _ => reads_sequenceBrackets off') (by omega) opens
  | .mapping [], _ =>
    exact readsLines_empty (fun _ => reads_mappingBrackets off') (by omega) opens
  | .sequence (x :: xs), sound =>
    refine .of_break (opensToken_itemLines _ _ _ _) ?_
    intro q column
    rw [itemLines_cons]
    exact .of_item (there.trans (by rw [column])) (endsWord_behindDash _ _ _ _)
      (reads_items x xs sound there (by simp only [Position.next]; omega) shallow opens)
  | .mapping ((key, w) :: fs), sound =>
    refine .of_break (opensToken_fieldLines _ _ _ _) ?_
    intro q column
    exact reads_mapping key w fs sound column (by omega) (by omega) opens
termination_by sizeOf v

theorem reads_afterDash (v : Value) (sound : v.Sound) {p : Position} {d : Settled}
    {k : List Char} {n m : Nat} (there : d.indent = n) (next : p.column = n + 1)
    (shallow : m ≤ n) (opens : opensToken k = true) :
    ReadsLines true p d (afterDash n v) m k (v.tokens false) := by
  have off : n < p.column := by omega
  have off' : d.indent < p.next.column := by
    simp only [Position.next]
    omega
  match v, sound with
  | .text s, _ => exact readsLines_text s there off shallow opens
  | .word s, isWord => exact readsLines_word isWord there off shallow opens
  | .sequence [], _ =>
    exact readsLines_empty (fun _ => reads_sequenceBrackets off') (by omega) opens
  | .mapping [], _ =>
    exact readsLines_empty (fun _ => reads_mappingBrackets off') (by omega) opens
  | .sequence (x :: xs), sound =>
    exact .of_space (reads_sequence x xs sound (by simp only [Position.next]; omega) (by omega)
      (by omega) opens)
  | .mapping ((key, w) :: fs), sound =>
    exact .of_space (reads_mapping key w fs sound (by simp only [Position.next]; omega) (by omega)
      (by omega) opens)
termination_by sizeOf v

/-- A sequence that is indented further than what it is in. -/
theorem reads_sequence (x : Value) (xs : List Value) (sound : ItemsSound (x :: xs)) {p : Position}
    {d : Settled} {k : List Char} {n m : Nat} (there : p.column = n) (inside : d.indent < n)
    (shallow : m ≤ d.indent) (opens : opensToken k = true) :
    ReadsLines true p d (itemLines n (x :: xs)) m k
      (.blockSequence :: itemTokens (x :: xs) ++ [.blockEnd]) := by
  have items := reads_items x xs sound (p := p.next) (n := n) (m := m) (k := k)
    (d := (⟨n, d.indent :: d.outer, .blockSequence :: d.tokens⟩ : Settled).emitAll [.item]) rfl
    (by simp only [Position.next]; omega) (by omega) opens
  obtain ⟨q, column, reads⟩ := items
  have item := reads_item (p := p) (d := d) (Int.le_of_lt (by omega))
    (endsWord_behindDash n x xs (spaces m ++ k))
  rw [there, Settled.enter_new inside] at item
  refine ⟨q, column, ?_⟩
  rw [itemLines_cons]
  rw [Settled.emitAll_emitAll] at reads
  exact item.trans (reads.trans (ReadsLines.close opens (by omega)))
termination_by sizeOf x + sizeOf xs + 1

/-- What follows the dash of an item, with the items after it. -/
theorem reads_items (x : Value) (xs : List Value) (sound : ItemsSound (x :: xs)) {p : Position}
    {d : Settled} {k : List Char} {n m : Nat} (there : d.indent = n) (next : p.column = n + 1)
    (shallow : m ≤ n) (opens : opensToken k = true) :
    ReadsLines true p d (behindDash n x xs) m k (x.tokens false ++ itemTokens xs) := by
  match xs, sound with
  | [], sound =>
    rw [behindDash_nil, itemTokens, List.append_nil]
    exact reads_afterDash x sound.1 there next shallow opens
  | y :: ys, sound =>
    rw [behindDash_cons]
    refine .append (reads_afterDash x sound.1 there next (Nat.le_refl n)
      (opensToken_itemLines _ _ _ _)) ?_
    intro q column
    rw [itemLines_cons]
    exact .of_item (there.trans (by rw [column])) (endsWord_behindDash _ _ _ _)
      (reads_items y ys sound.2 there (by simp only [Position.next]; omega) shallow opens)
termination_by sizeOf x + sizeOf xs

/-- A mapping that is indented further than what it is in. -/
theorem reads_mapping (key : String) (v : Value) (fs : List (String × Value))
    (sound : FieldsSound ((key, v) :: fs)) {p : Position} {d : Settled} {k : List Char} {n m : Nat}
    (there : p.column = n) (inside : d.indent < n) (shallow : m ≤ d.indent)
    (opens : opensToken k = true) :
    ReadsLines true p d (fieldLines n ((key, v) :: fs)) m k
      (.blockMapping :: fieldTokens ((key, v) :: fs) ++ [.blockEnd]) := by
  have near : d.indent ≤ n := Int.le_of_lt inside
  obtain ⟨q, column, reads⟩ := ReadsLines.of_field key there
    (endsWord_behindColon n v fs (spaces m ++ k)) near fun allowed q far =>
      reads_fields v fs sound.1 sound.2 (Settled.indent_enter near) far (by omega) opens
  rw [Settled.enter_new inside] at reads
  refine ⟨q, column, ?_⟩
  rw [fieldLines_cons]
  exact reads.trans (ReadsLines.close opens (by omega))
termination_by sizeOf v + sizeOf fs + 1

/-- What follows the colon of a field, with the fields after it. -/
theorem reads_fields (v : Value) (fs : List (String × Value)) (sound : v.Sound)
    (later : FieldsSound fs) {allowed : Bool} {p : Position} {d : Settled} {k : List Char}
    {n m : Nat} (there : d.indent = n) (off : n < p.column) (shallow : m ≤ n)
    (opens : opensToken k = true) :
    ReadsLines allowed p d (behindColon n v fs) m k (v.tokens true ++ fieldTokens fs) := by
  match fs, later with
  | [], _ =>
    rw [behindColon_nil, fieldTokens, List.append_nil]
    exact reads_afterColon v sound there off shallow opens
  | (key, w) :: fs, later =>
    rw [behindColon_cons]
    refine .append (reads_afterColon v sound there off (Nat.le_refl n)
      (opensToken_fieldLines _ _ _ _)) ?_
    intro q column
    have field := ReadsLines.of_field key (d := d.emitAll (v.tokens true)) column
      (endsWord_behindColon n w fs (spaces m ++ k)) (Int.le_of_eq there) fun allowed q far =>
        reads_fields w fs later.1 later.2 (Settled.indent_enter (Int.le_of_eq there)) far shallow
          opens
    rw [Settled.enter_open (d := d.emitAll (v.tokens true)) there] at field
    rw [fieldLines_cons]
    exact field
termination_by sizeOf v + sizeOf fs

end

end ClusterLifecycle.Yaml
