import ClusterLifecycle.Proofs.Yaml.Bare
import ClusterLifecycle.Proofs.Yaml.Fields

/-!
Mappings into which texts are put as they are. Each text is read by itself: either every one of them
gives what is taken of its line, or the whole document has no reading.

* `Value.heard?`: what is read in the place of a value;
* `document?_spliced`: the document is the tree of that.
-/

namespace ClusterLifecycle.Yaml

open Text Lexer Value

/-- Nothing can be read from here. -/
def Lexer.Broken (s : Lexer) : Prop := ∀ fuel, s.ahead < fuel → run fuel s = none

theorem Lexer.Reads.broken {s t : Lexer} (h : Reads s t) (broken : t.Broken) : s.Broken := by
  intro fuel enough
  obtain ⟨fuel', enough', same⟩ := h.run_eq enough
  exact same.trans (broken fuel' enough')

section
variable {allowed : Bool} {p : Position} {d : Settled} {s k rest : List Char} {n m : Nat} {c : Char}

/-- Whatever is closed in front of a token, it comes next. -/
theorem advance_closes (allowed : Bool) (p : Position) (d : Settled)
    (opens : opensToken rest = true) : ∃ d' : Settled,
      (inBlock allowed none p d rest).advance = some (inBlock allowed none p d' rest) := by
  obtain ⟨indent, outer, tokens⟩ := d
  refine ⟨⟨(closeTo p.column indent outer tokens).1, (closeTo p.column indent outer tokens).2.1,
    (closeTo p.column indent outer tokens).2.2⟩, ?_⟩
  simp [advance, inBlock, passBlanks_eq opens, dropStale, close, inFlow]

/-- A token that cannot be read breaks the text. -/
theorem broken_of_token (opens : opensToken (c :: rest) = true)
    (fails : ∀ d' : Settled, (inBlock allowed none p d' (c :: rest)).token c rest = none) :
    (inBlock allowed none p d (c :: rest)).Broken := by
  intro fuel _
  cases fuel with
  | zero => rfl
  | succ fuel =>
    obtain ⟨d', advance⟩ := advance_closes allowed p d opens
    rw [run, advance]
    exact congrArg (·.bind (run fuel)) (fails d')

/-- A colon where no key can be breaks the text. -/
theorem broken_of_colon (ends : endsWord rest = true) :
    (inBlock false none p d (':' :: rest)).Broken := by
  refine broken_of_token (by simp [opensToken, isBlank, isBreak]) fun d' => ?_
  simp [token, isMarker, inFlow, inBlock, ends, value]

/-- Inside a line, a plain text that can begin does. -/
theorem token_plain (opens : opensPlain (c :: s) = true) (inLine : 0 < p.column) :
    (inBlock allowed none p d (c :: s ++ '\n' :: rest)).token c (s ++ '\n' :: rest) =
      (inBlock allowed none p d (c :: s ++ '\n' :: rest)).plain := by
  have column : p.column ≠ 0 := by omega
  have same := endsWord_line s rest
  rw [opensPlain] at opens
  split at opens
  next mark =>
    have ends : endsWord s = false := by simpa using opens
    have noBlank : isBlank (s.head?.getD '\n') = false := by
      cases s with
      | nil => rfl
      | cons e s => exact (Bool.or_eq_false_iff.1 ends).1
    simp only [List.mem_cons, List.not_mem_nil, or_false] at mark
    rcases mark with rfl | rfl | rfl
    · simp [token, inBlock, inFlow, column, same, ends, noBlank]
    · simp [token, inBlock, inFlow, column, same, ends]
    · simp [token, inBlock, inFlow, column, same, ends]
  next noMark =>
    obtain ⟨plain, blank⟩ : opensNoPlain c = false ∧ isBlank c = false := by simpa using opens
    have other := plain
    simp only [opensNoPlain, List.mem_cons, List.not_mem_nil, or_false, decide_eq_false_iff_not,
      not_or] at other
    simp [token, inBlock, inFlow, column, other, plain, blank]

/-- Inside a line, nothing else than a plain text begins without a mark. -/
theorem token_none (noPlain : opensPlain (c :: s) = false) (unmarked : opensNode c = false)
    (inLine : 0 < p.column) (blank : isBlank c = false) :
    (inBlock false none p d (c :: s ++ '\n' :: rest)).token c (s ++ '\n' :: rest) = none := by
  have column : p.column ≠ 0 := by omega
  have same := endsWord_line s rest
  rw [opensPlain] at noPlain
  split at noPlain
  next mark =>
    have ends : endsWord s = true := by simpa using noPlain
    simp only [List.mem_cons, List.not_mem_nil, or_false] at mark
    rcases mark with rfl | rfl | rfl
    · simp [token, inBlock, inFlow, column, same, ends, item]
    · simp [token, inBlock, inFlow, column, same, ends, markedKey]
    · simp [token, inBlock, inFlow, column, same, ends, value]
  next noMark =>
    have plain : opensNoPlain c = true := by simpa [blank] using noPlain
    simp only [opensNode, List.mem_cons, List.not_mem_nil, or_false, decide_eq_false_iff_not,
      not_or] at unmarked
    simp only [List.mem_cons, List.not_mem_nil, or_false, not_or] at noMark
    simp [token, inBlock, inFlow, column, unmarked, noMark, plain]

/-- What is next is read as these tokens, up to a token that stands on a line of its own; where
there are none, it breaks. -/
def Lexer.Leads (s : Lexer) (column : Nat) (k : List Char) (d : Settled) :
    Option (List Token) → Prop
  | some front => ∃ q : Position, q.column = column ∧
      Reads s (inBlock true none q (d.emitAll front) k)
  | none => s.Broken

namespace Lexer.Leads

variable {s' t : Lexer} {o o' : Option (List Token)} {f : Token}

theorem of_reads (h : Reads t s') (h' : s'.Leads m k d o) : t.Leads m k d o := by
  cases o with
  | none => exact h.broken h'
  | some front =>
    obtain ⟨q, column, reads⟩ := h'
    exact ⟨q, column, h.trans reads⟩

/-- Tokens that are there already count to what is read. -/
theorem emitted (front : List Token) (h : t.Leads m k (d.emitAll front) o) :
    t.Leads m k d (o.map (front ++ ·)) := by
  cases o with
  | none => exact h
  | some back =>
    obtain ⟨q, column, reads⟩ := h
    rw [Settled.emitAll_emitAll] at reads
    exact ⟨q, column, reads⟩

/-- Lines that follow are read after those before them. -/
theorem append (h : t.Leads n rest d o)
    (h' : ∀ (front : List Token) (q : Position), q.column = n →
      (inBlock true none q (d.emitAll front) rest).Leads m k (d.emitAll front) o') :
    t.Leads m k d (o.bind fun front => o'.map (front ++ ·)) := by
  cases o with
  | none => exact h
  | some front =>
    obtain ⟨q, column, reads⟩ := h
    exact of_reads reads ((h' front q column).emitted front)

/-- What was opened is closed where the next token stands further out. -/
theorem close (opens : opensToken k = true) (shallow : m < n)
    (h : t.Leads m k ⟨n, d.indent :: d.outer, f :: d.tokens⟩ o) :
    t.Leads m k d (o.map fun front => f :: front ++ [.blockEnd]) := by
  cases o with
  | none => exact h
  | some front =>
    obtain ⟨q, column, reads⟩ := h
    exact ⟨q, column, reads.trans (ReadsLines.close opens (by omega))⟩

end Lexer.Leads

/-- Where no key can begin, any blank is passed. -/
theorem reads_blank (blank : isBlank c = true) :
    Reads (inBlock false none p d (c :: rest)) (inBlock false none p.next d rest) := by
  have either : c = ' ' ∨ c = '\t' := by simpa [isBlank] using blank
  apply Reads.same
  simp only [advance, inBlock]
  rw [passBlanks]
  simp [isBreak_of_isBlank blank, either, inFlow]

/-- The tokens of what is taken of a line: none where nothing is left. -/
def lineTokens (t : List Char) : List Token :=
  if t = [] then [] else [.scalar (String.ofList t) true]

/-- Where a plain text may begin, the lexer takes of the line what is to be taken. -/
theorem leads_line (opensLine : opensPlain (c :: s) = true)
    (oneLine : (c :: s).any isBreak = false) (there : d.indent = n) (off : n < p.column)
    (shallow : m ≤ n) (opens : opensToken k = true) :
    (inBlock false none p d (c :: s ++ '\n' :: (spaces m ++ k))).Leads m k d
      ((lineText? (c :: s)).map lineTokens) := by
  obtain ⟨here, later⟩ := Bool.or_eq_false_iff.1 oneLine
  obtain ⟨blank, comment, colon⟩ := opensPlain_cons opensLine
  have far : (d.indent + 1).toNat = n + 1 := by omega
  have same := endsWord_line s (spaces m ++ k)
  have text : lineText? (c :: s) = (lineText? s).map (c :: ·) := by
    rw [lineText?, if_neg (by simp [blank]), if_neg (by simpa using colon)]
  obtain ⟨taken, read, gives⟩ := readPlain_lineText? (n := n + 1) (g := .none) (p := p.next) later
    rfl (by simp only [Position.next]; omega) (.inl rfl) (Nat.lt_succ_of_le shallow) opens
  have first : readPlain false (d.indent + 1).toNat .none p (c :: s ++ '\n' :: (spaces m ++ k)) =
      some (taken.behind [c]) := by
    rw [far, List.cons_append, readPlain_word here blank (fun some_ => absurd rfl some_)
      (fun is => same.trans (colon is)), read]
    rfl
  have token : (inBlock false none p d (c :: s ++ '\n' :: (spaces m ++ k))).token c
      (s ++ '\n' :: (spaces m ++ k)) = some _ :=
    (token_plain opensLine (by omega)).trans (plain_inBlock first)
  refine .of_reads (reads_token (k := none) (by simp [opensToken, here, blank, comment])
    (by omega : d.indent ≤ p.column) fresh_none token (length_readPlain (t := taken) read)) ?_
  rw [text]
  change (inBlock taken.atBreak none taken.position _ taken.rest).Leads m k d _
  cases line : lineText? s with
  | none =>
    rw [line] at gives
    obtain ⟨goesOn, rest, stuck, ends⟩ := gives
    rw [goesOn, stuck]
    exact broken_of_colon ends
  | some t =>
    rw [line] at gives
    obtain ⟨text, ends⟩ := gives
    obtain ⟨q, column, reads⟩ := ends (d.emit (.scalar (String.ofList (c :: taken.text)) true))
    have made : lineTokens (c :: t) = [.scalar (String.ofList (c :: taken.text)) true] := by
      simp [lineTokens, text, Gap.text]
    refine ⟨q, column, ?_⟩
    rw [made]
    exact reads

/-- The lexer takes of a line what is to be taken, or fails. -/
theorem leads_bare (unmarked : Unmarked s) (there : d.indent = n) (off : n < p.column)
    (shallow : m ≤ n) (opens : opensToken k = true) :
    (inBlock false none p d (s ++ '\n' :: (spaces m ++ k))).Leads m k d
      ((bareText? s).map lineTokens) := by
  have oneLine := isBreak_of_isLineEnd unmarked.oneLine
  by_cases ends : endsLine s = true
  · rw [bareText?, if_pos ends]
    exact reads_restOfLine oneLine ends m k
  · induction s generalizing p with
    | nil => exact absurd rfl ends
    | cons c s ih =>
      cases blank : isBlank c with
      | true =>
        rw [endsLine_blank blank] at ends
        rw [bareText?_blank blank]
        have later : Unmarked s := by
          obtain ⟨oneLine, unmarked⟩ := unmarked
          rw [List.dropWhile_cons_of_pos blank] at unmarked
          exact ⟨(Bool.or_eq_false_iff.1 oneLine).2, unmarked⟩
        exact .of_reads (reads_blank blank)
          (ih later (Nat.lt_succ_of_lt off) (isBreak_of_isLineEnd later.oneLine) ends)
      | false =>
        rw [endsLine_other blank] at ends
        have comment : c ≠ '#' := by simpa using ends
        rw [bareText?_other blank comment]
        split
        next plain => exact leads_line plain oneLine there off shallow opens
        next noPlain =>
          have mark : opensNode c = false := by
            have unmarked := unmarked.unmarked
            rw [List.dropWhile_cons_of_neg (by simp [blank])] at unmarked
            exact unmarked
          have here : isBreak c = false := (Bool.or_eq_false_iff.1 oneLine).1
          exact broken_of_token (by simp [opensToken, here, blank, comment]) fun d' =>
            token_none (by simpa using noPlain) mark (by omega) blank

end

namespace Value

mutual

/-- The words in it are texts put in as they are, each behind a colon on the line of its key. -/
def Spliced : Value → Prop
  | .word s => Unmarked s.toList
  | .mapping fields => fields ≠ [] ∧ FieldsSpliced fields
  | v => v.Sound

def FieldsSpliced : List (String × Value) → Prop
  | [] => True
  | (key, value) :: rest =>
    isSimpleKey key.toList = true ∧ value.Spliced ∧ FieldsSpliced rest

end

mutual

/-- What is read in the place of a value. -/
def heard? : Value → Option Value
  | .word s => (bareText? s.toList).map fun t => .word (String.ofList t)
  | .mapping fields => (fieldsHeard? fields).map .mapping
  | v => some v

def fieldsHeard? : List (String × Value) → Option (List (String × Value))
  | [] => some []
  | (key, value) :: rest =>
    value.heard?.bind fun value => (fieldsHeard? rest).map ((key, value) :: ·)

end

mutual

/-- The tokens of a value, where a word that is empty has none. -/
def heardTokens : Value → List Token
  | .word s => if s = "" then [] else [.scalar s true]
  | .mapping fields => .blockMapping :: fieldsHeardTokens fields ++ [.blockEnd]
  | v => v.tokens true

def fieldsHeardTokens : List (String × Value) → List Token
  | [] => []
  | (key, value) :: rest =>
    .key :: scalarToken key :: .value :: value.heardTokens ++ fieldsHeardTokens rest

end

end Value

section
variable {p : Position} {d : Settled} {k : List Char} {n m : Nat}

theorem heardTokens_mapping (fields : List (String × Value)) :
    (mapping fields).heardTokens = .blockMapping :: fieldsHeardTokens fields ++ [.blockEnd] := by
  rw [heardTokens]

theorem heardTokens_word (t : List Char) :
    (word (String.ofList t)).heardTokens = lineTokens t := by
  have empty : String.ofList t = "" ↔ t = [] := by
    rw [← String.toList_inj, String.toList_ofList]
    rfl
  rw [heardTokens, lineTokens]
  simp only [empty]

/-- A key on its own line leads to its value. -/
theorem leads_field {text : List Char} {o : Option (List Token)} (key : String)
    (simple : isSimpleKey key.toList = true) (there : p.column = n) (near : d.indent ≤ n)
    (ends : endsWord text = true)
    (h : ∀ q : Position, n < q.column → (inBlock false none q
      ((d.enter n .blockMapping).emitAll [.key, scalarToken key, .value]) text).Leads m k
        ((d.enter n .blockMapping).emitAll [.key, scalarToken key, .value]) o) :
    (inBlock true none p d (keyText n key.toList ++ text)).Leads m k (d.enter n .blockMapping)
      (o.map fun front => .key :: scalarToken key :: .value :: front) := by
  obtain ⟨q, off, reads⟩ := reads_simpleKey simple there near ends
  have keyed : keyText n key.toList ++ text =
      (scalarLines (n + 2) key.toList).dropLast ++ ':' :: text := by
    rw [keyText, if_pos simple, List.append_assoc]
    rfl
  rw [keyed]
  exact .of_reads reads ((h q off).emitted [.key, scalarToken key, .value])

mutual

/-- What follows the colon of a key is heard, or the text breaks. -/
theorem leads_afterColon (v : Value) (spliced : v.Spliced) {p : Position} {d : Settled}
    {k : List Char} {n m : Nat} (there : d.indent = n) (off : n < p.column) (shallow : m ≤ n)
    (opens : opensToken k = true) :
    (inBlock false none p d (afterColon n v ++ (spaces m ++ k))).Leads m k d
      (v.heard?.map heardTokens) := by
  match v, spliced with
  | .text s, sound | .sequence items, sound =>
    exact reads_afterColon _ sound there off shallow opens
  | .word s, unmarked =>
    have line : afterColon n (.word s) ++ (spaces m ++ k) =
        ' ' :: (s.toList ++ '\n' :: (spaces m ++ k)) := by simp [afterColon]
    rw [line, heard?, Option.map_map]
    have tokens : heardTokens ∘ (fun t => word (String.ofList t)) = lineTokens :=
      funext heardTokens_word
    rw [tokens]
    exact .of_reads reads_space
      (leads_bare unmarked there (Nat.lt_succ_of_lt off) shallow opens)
  | .mapping [], spliced => exact absurd rfl spliced.1
  | .mapping ((key, w) :: fs), spliced =>
    obtain ⟨q, column, lineEnd⟩ := reads_lineEnd false (n := n + 2) (p := p) (d := d) (k := none)
      (opensToken_fieldLines (n + 2) (key, w) fs (spaces m ++ k)) nofun
    rw [heard?, Option.map_map, afterColon, List.append_assoc, List.cons_append]
    exact .of_reads lineEnd
      (leads_mapping key w fs spliced.2 column (by omega) (by omega) opens)
termination_by sizeOf v

theorem leads_mapping (key : String) (v : Value) (fs : List (String × Value))
    (spliced : FieldsSpliced ((key, v) :: fs)) {p : Position} {d : Settled} {k : List Char}
    {n m : Nat} (there : p.column = n) (inside : d.indent < n) (shallow : m ≤ d.indent)
    (opens : opensToken k = true) :
    (inBlock true none p d (fieldLines n ((key, v) :: fs) ++ (spaces m ++ k))).Leads m k d
      ((fieldsHeard? ((key, v) :: fs)).map fun fs => (mapping fs).heardTokens) := by
  have near : d.indent ≤ n := Int.le_of_lt inside
  have fields := leads_field key spliced.1 there near (endsWord_behindColon n v fs (spaces m ++ k))
    fun q off => leads_fields v fs spliced.2.1 spliced.2.2 (Settled.indent_enter near) off
      (by omega) opens
  rw [Settled.enter_new inside] at fields
  have closed := fields.close opens (by omega)
  have same : (fieldsHeard? ((key, v) :: fs)).map (fun fs => (mapping fs).heardTokens) =
      ((v.heard?.bind fun v => (fieldsHeard? fs).map fun fs =>
        v.heardTokens ++ fieldsHeardTokens fs).map fun front =>
          .key :: scalarToken key :: .value :: front).map fun front =>
            .blockMapping :: front ++ [.blockEnd] := by
    rw [fieldsHeard?]
    cases v.heard? <;> cases fieldsHeard? fs <;> simp [heardTokens_mapping, fieldsHeardTokens]
  rw [fieldLines_cons, List.append_assoc, same]
  exact closed
termination_by sizeOf v + sizeOf fs + 1

theorem leads_fields (v : Value) (fs : List (String × Value)) (spliced : v.Spliced)
    (later : FieldsSpliced fs) {p : Position} {d : Settled} {k : List Char} {n m : Nat}
    (there : d.indent = n) (off : n < p.column) (shallow : m ≤ n) (opens : opensToken k = true) :
    (inBlock false none p d (behindColon n v fs ++ (spaces m ++ k))).Leads m k d
      (v.heard?.bind fun v => (fieldsHeard? fs).map fun fs =>
        v.heardTokens ++ fieldsHeardTokens fs) := by
  match fs, later with
  | [], _ =>
    have same : (v.heard?.bind fun v => (fieldsHeard? []).map fun fs =>
        v.heardTokens ++ fieldsHeardTokens fs) = v.heard?.map heardTokens := by
      cases v.heard? <;> simp [fieldsHeard?, fieldsHeardTokens]
    rw [behindColon_nil, same]
    exact leads_afterColon v spliced there off shallow opens
  | (key, w) :: fs, later =>
    have value := leads_afterColon v spliced there off (Nat.le_refl n)
      (opensToken_fieldLines n (key, w) fs (spaces m ++ k))
    have same : (v.heard?.bind fun v => (fieldsHeard? ((key, w) :: fs)).map fun fs =>
        v.heardTokens ++ fieldsHeardTokens fs) =
        (v.heard?.map heardTokens).bind fun front =>
          ((w.heard?.bind fun w => (fieldsHeard? fs).map fun fs =>
            w.heardTokens ++ fieldsHeardTokens fs).map fun back =>
              .key :: scalarToken key :: .value :: back).map (front ++ ·) := by
      rw [fieldsHeard?]
      cases v.heard? <;> cases w.heard? <;> cases fieldsHeard? fs <;> simp [fieldsHeardTokens]
    rw [behindColon_cons, List.append_assoc, List.append_assoc, same]
    refine value.append fun front q column => ?_
    have field := leads_field key later.1 (d := d.emitAll front) column (Int.le_of_eq there)
      (endsWord_behindColon n w fs (spaces m ++ k)) fun q off =>
        leads_fields w fs later.2.1 later.2.2 (Settled.indent_enter (Int.le_of_eq there)) off
          shallow opens
    rw [Settled.enter_open (d := d.emitAll front) there] at field
    rw [fieldLines_cons, List.append_assoc]
    exact field
termination_by sizeOf v + sizeOf fs

end

end

/-- A value that is heard as no token is empty; any other begins with one that ends no field. -/
theorem heardTokens_cases (v : Value) :
    v.heardTokens = [] ∧ v.node = Node.empty ∨
      ∃ t later, v.heardTokens = t :: later ∧ t ≠ .key ∧ t ≠ .value ∧ t ≠ .blockEnd := by
  cases v with
  | word s =>
    by_cases empty : s = ""
    · subst empty
      exact .inl ⟨rfl, rfl⟩
    · exact .inr ⟨.scalar s true, [], by simp [heardTokens, empty], by simp⟩
  | mapping fields => exact .inr ⟨_, _, heardTokens_mapping fields, by simp⟩
  | text s =>
    obtain ⟨t, later, tokens, key, value, end_, -⟩ := tokens_cons (.text s) true
    exact .inr ⟨t, later, tokens, key, value, end_⟩
  | sequence items =>
    obtain ⟨t, later, tokens, key, value, end_, -⟩ := tokens_cons (.sequence items) true
    exact .inr ⟨t, later, tokens, key, value, end_⟩

namespace TokenRead

/-- The place of a value, with nothing in it. -/
theorem blockFields_absent {fuel : Nat} {s : TokenReader} {text : String} {plain : Bool} {t : Token}
    {rest : List Token} (ends : t = .key ∨ t = .blockEnd) :
    blockFields (fuel + 2) (s.facing (.key :: .scalar text plain :: .value :: t :: rest)) =
      (blockFields (fuel + 1) (s.facing (t :: rest))).map fun (fields, s) =>
        ((.scalar none text plain, Node.empty) :: fields, s) := by
  rw [blockFields]
  rcases ends with rfl | rfl <;>
    simp [bind_run, passIf_run, atAny_run, node_scalar, map_run]

theorem node_heardMapping {fuel : Nat} {indentless : Bool} {fields : List (String × Value)}
    {s : TokenReader} {rest : List Token}
    (read : blockFields fuel (s.facing (fieldsHeardTokens fields ++ .blockEnd :: rest)) =
      some (fieldNodes fields, s.facing rest)) :
    node (fuel + 1) true indentless (s.facing ((mapping fields).heardTokens ++ rest)) =
      some ((mapping fields).node, s.facing rest) := by
  rw [heardTokens_mapping, List.append_assoc, List.cons_append, node_blockMapping,
    List.singleton_append, read]
  rfl

mutual

/-- What is heard is read back from its tokens, if it has any, and what follows them is left. -/
theorem node_heardTokens (v : Value) (fuel : Nat) (s : TokenReader) (rest : List Token)
    (some_ : v.heardTokens ≠ []) (enough : 2 * v.heardTokens.length + 2 ≤ fuel)
    (beyond : rest.head? ≠ some .item) :
    node fuel true true (s.facing (v.heardTokens ++ rest)) = some (v.node, s.facing rest) := by
  match v with
  | .text _ | .sequence _ => exact node_tokens _ true fuel s rest enough fun _ => beyond
  | .word s =>
    obtain ⟨fuel, rfl⟩ : ∃ less, fuel = less + 1 := ⟨fuel - 1, by omega⟩
    have full : s ≠ "" := by
      rintro rfl
      exact some_ rfl
    have tokens : (word s).heardTokens = [.scalar s true] := by simp [heardTokens, full]
    rw [tokens]
    exact node_scalar
  | .mapping fields =>
    obtain ⟨fuel, rfl⟩ : ∃ less, fuel = less + 1 := ⟨fuel - 1, by omega⟩
    rw [heardTokens_mapping, List.length_append, List.length_cons] at enough
    exact node_heardMapping (blockFields_heardTokens fields _ _ _ (by omega))
termination_by sizeOf v

theorem blockFields_heardTokens (fields : List (String × Value)) (fuel : Nat) (s : TokenReader)
    (rest : List Token) (enough : 2 * (fieldsHeardTokens fields).length + 1 ≤ fuel) :
    blockFields fuel (s.facing (fieldsHeardTokens fields ++ .blockEnd :: rest)) =
      some (fieldNodes fields, s.facing rest) := by
  match fuel, fields with
  | 0, _ => exact absurd enough (by omega)
  | fuel + 1, [] => exact blockFields_end
  | fuel + 1, (name, v) :: fields =>
    rw [fieldsHeardTokens] at enough ⊢
    simp only [List.length_cons, List.length_append] at enough
    obtain ⟨fuel, rfl⟩ : ∃ less, fuel = less + 1 := ⟨fuel - 1, by omega⟩
    have later := blockFields_heardTokens fields (fuel + 1) s rest (by omega)
    obtain ⟨t, back, next, ends⟩ : ∃ t back,
        fieldsHeardTokens fields ++ .blockEnd :: rest = t :: back ∧ (t = .key ∨ t = .blockEnd) := by
      cases fields with
      | nil => exact ⟨_, _, rfl, .inr rfl⟩
      | cons f fields => exact ⟨_, _, rfl, .inl rfl⟩
    simp only [List.cons_append, List.append_assoc]
    rcases heardTokens_cases v with ⟨none_, empty⟩ | ⟨t', back', tokens, key, value, end_⟩
    · rw [none_, List.nil_append, scalarToken, next, blockFields_absent ends, ← next, later,
        ← empty]
      rfl
    · have beyond : (fieldsHeardTokens fields ++ .blockEnd :: rest).head? ≠ some .item := by
        rw [next]
        rcases ends with rfl | rfl <;> simp
      have first := node_heardTokens v (fuel + 1) s _ (by simp [tokens]) (by omega) beyond
      rw [tokens, List.cons_append] at first ⊢
      rw [scalarToken, blockFields_field key value end_, first, Option.bind_some]
      dsimp only
      rw [later]
      rfl
termination_by sizeOf fields

end

end TokenRead

/-- At the end of the text the root mapping is closed. -/
theorem Lexer.Leads.run_eq {t : Lexer} {tokens : List Token} {o : Option (List Token)} {fuel : Nat}
    (h : t.Leads 0 [] ⟨0, [-1], tokens⟩ o) (enough : t.ahead < fuel) :
    run fuel t = o.map fun front => tokens.reverse ++ front ++ [.blockEnd] := by
  cases o with
  | none => exact h fuel enough
  | some front =>
    obtain ⟨q, column, reads⟩ := h
    obtain ⟨fuel', enough', run⟩ := reads.run_eq enough
    refine run.trans ((run_end column (Nat.lt_of_le_of_lt (Nat.zero_le _) enough')).trans ?_)
    simp

/-- The tokens of a document into which texts are put as they are. -/
theorem tokens?_spliced {f : String × Value} {fs : List (String × Value)}
    (spliced : FieldsSpliced (f :: fs)) (allowed : (fieldLines 0 (f :: fs)).all isAllowed = true)
    (uniform : ∀ c ∈ fieldLines 0 (f :: fs), c ≠ '\r' ∧ c ≠ '\u0085') :
    tokens? (fieldLines 0 (f :: fs)) =
      (fieldsHeard? (f :: fs)).map fun fs => (mapping fs).heardTokens := by
  obtain ⟨key, v⟩ := f
  have head (c : Char) (h : (fieldLines 0 ((key, v) :: fs)).head? = some c) :
      isPrintable c = true := by
    have some_ : keyText 0 key.toList ≠ [] := by
      unfold keyText
      split <;> simp
    rw [fieldLines_cons, List.head?_append, List.head?_eq_some_head some_] at h
    exact Written.keyText 0 key.toList c (Option.some.inj h ▸ List.head_mem some_)
  rw [tokens?, if_pos allowed]
  dsimp only
  rw [uniformBreaks_eq_self uniform, start_eq head]
  have fields := leads_field key spliced.1 (p := {}) (d := {}) (n := 0) (m := 0) (k := []) rfl
    (by decide) (endsWord_behindColon 0 v fs (spaces 0 ++ [])) fun q off =>
      leads_fields v fs spliced.2.1 spliced.2.2 (Settled.indent_enter (by decide)) off
        (Nat.le_refl 0) rfl
  have text : keyText 0 key.toList ++ (behindColon 0 v fs ++ (spaces 0 ++ [])) =
      fieldLines 0 ((key, v) :: fs) := by
    simp [fieldLines_cons, spaces]
  rw [Settled.enter_new (by decide), text] at fields
  refine (fields.run_eq (Nat.lt_succ_of_le (ahead_le _))).trans ?_
  rw [fieldsHeard?]
  cases v.heard? <;> cases fieldsHeard? fs <;> simp [heardTokens_mapping, fieldsHeardTokens]

/-- A document into which texts are put as they are is what is heard of it. -/
theorem document?_spliced {fields : List (String × Value)} (some_ : fields ≠ [])
    (spliced : FieldsSpliced fields)
    (allowed : (render (.mapping fields)).toList.all isAllowed = true)
    (uniform : ∀ c ∈ (render (.mapping fields)).toList, c ≠ '\r' ∧ c ≠ '\u0085') :
    document? (render (.mapping fields)).toList =
      (fieldsHeard? fields).map fun heard => ⟨(mapping heard).node, []⟩ := by
  cases fields with
  | nil => contradiction
  | cons f fs =>
    rw [render, String.toList_ofList] at allowed uniform ⊢
    have tokens := tokens?_spliced spliced allowed uniform
    cases heard : fieldsHeard? (f :: fs) with
    | none =>
      rw [heard] at tokens
      simp [document?, tokens]
    | some fields =>
      rw [heard, Option.map_some] at tokens
      refine document?_of_tokens tokens ?_ ?_ ?_ fun s => ?_
      · simp [heardTokens_mapping]
      · simp [heardTokens_mapping, TokenRead.directives]
      · simp [heardTokens_mapping]
      · rw [← List.append_nil (mapping fields).heardTokens]
        refine TokenRead.node_heardMapping (TokenRead.blockFields_heardTokens fields _ s [] ?_)
        simp only [heardTokens_mapping, List.length_append, List.length_cons, List.append_nil]
        omega

end ClusterLifecycle.Yaml
