import ClusterLifecycle.Proofs.Yaml.Blocks
import ClusterLifecycle.Proofs.Yaml.Escaped
import ClusterLifecycle.Proofs.Yaml.Steps

/-!
Texts as tokens: whatever the style of a text, the lexer makes the one token of it.

* `reads_scalarLine`: a text up to the end of its lines;
* `reads_inline`: a text on one line, up to the colon that makes it a key.
-/

namespace ClusterLifecycle.Yaml

open Text Lexer

/-- A text that reads back as it is without quotes. -/
structure IsWord (s : List Char) : Prop where
  some_ : s ≠ []
  allowed : plainAllowed s = true

/-- The token of a text. -/
def scalarToken (s : String) : Token := .scalar s (styleOf s.toList = .plain)

section
variable {s : List Char}

theorem plain_facts (h : styleOf s = .plain) : isAmbiguous s = false ∧ plainAllowed s = true := by
  simp only [styleOf] at h
  split at h
  · split at h <;> cases h
  · split at h
    next plain =>
      obtain ⟨clear, allowed⟩ := Bool.and_eq_true_iff.1 plain
      exact ⟨by simpa using clear, allowed⟩
    next => split at h <;> cases h

theorem isWord_of_plain (h : styleOf s = .plain) : IsWord s := by
  obtain ⟨clear, allowed⟩ := plain_facts h
  refine ⟨?_, allowed⟩
  rintro rfl
  cases clear

theorem singleAllowed_of_single (h : styleOf s = .single) :
    '\n' ∉ s ∧ singleAllowed s = true := by
  simp only [styleOf] at h
  split at h
  next => split at h <;> cases h
  next noLine =>
    refine ⟨by simpa using noLine, ?_⟩
    split at h
    · cases h
    · split at h
      next allowed => exact allowed
      next => cases h

theorem blockAllowed_of_block (h : styleOf s = .block) : '\n' ∈ s ∧ blockAllowed s = true := by
  simp only [styleOf] at h
  split at h
  next line =>
    refine ⟨by simpa using line, ?_⟩
    split at h
    next allowed => exact allowed
    next => cases h
  next =>
    split at h
    · cases h
    · split at h <;> cases h

end

/-- A text of one line is no block. -/
theorem styleOf_ne_block {s : List Char} (oneLine : s.any isBreak = false) :
    styleOf s ≠ .block := by
  intro block
  exact List.any_eq_false.1 oneLine '\n' (blockAllowed_of_block block).1 (by decide)

namespace IsWord

variable {c : Char} {s k : List Char}

theorem facts (h : IsWord s) :
    hasIndicator s = false ∧ needsEscapes s = false ∧ s.any isBreak = false ∧
      s.head?.any isSpaceOrBreak = false ∧ s.getLast?.any isSpaceOrBreak = false := by
  have allowed := h.allowed
  simp only [plainAllowed, Bool.and_eq_true, Bool.not_eq_true'] at allowed
  obtain ⟨⟨⟨⟨indicator, escapes⟩, oneLine⟩, first⟩, last⟩ := allowed
  exact ⟨indicator, escapes, oneLine, first, last⟩

theorem last_ne_space (h : IsWord s) : s.getLast? ≠ some ' ' := by
  intro last
  have := h.facts.2.2.2.2
  rw [last] at this
  exact absurd this (by decide)

/-- No word begins as an indicator does. -/
theorem not_indicator (h : IsWord (c :: s)) :
    opensOtherwise c = false ∧ (c = '?' ∨ c = '-' → endsWord s = false) ∧
      hasInnerIndicator (c :: s) = false ∧ ['-', '-', '-'].isPrefixOf (c :: s) = false ∧
      ['.', '.', '.'].isPrefixOf (c :: s) = false := by
  have indicator := h.facts.1
  simp only [hasIndicator, Bool.or_eq_false_iff] at indicator
  obtain ⟨⟨⟨⟨opens, mark⟩, inner⟩, dashes⟩, dots⟩ := indicator
  refine ⟨opens, ?_, inner, dashes, dots⟩
  intro is
  simpa only [decide_eq_true is, ← Bool.decide_or, Bool.true_and] using mark

/-- A word begins with neither a blank nor a line end. -/
theorem head_facts (h : IsWord (c :: s)) : isBlank c = false ∧ isBreak c = false := by
  obtain ⟨_, escapes, oneLine, first, _⟩ := h.facts
  obtain ⟨space, noBreak⟩ : c ≠ ' ' ∧ isBreak c = false := by
    simpa [isSpaceOrBreak] using first
  refine ⟨?_, noBreak⟩
  rw [isBlank_of_isPrintable (needsEscapes_cons escapes).1, decide_eq_false space]

theorem opensToken (h : IsWord (c :: s)) (k : List Char) : opensToken (c :: s ++ k) = true := by
  obtain ⟨blank, noBreak⟩ := h.head_facts
  have hash : c ≠ '#' := by
    rintro rfl
    exact absurd h.not_indicator.1 (by decide)
  simp [Yaml.opensToken, blank, noBreak, hash]

/-- A word is no marker, whatever comes after it but another dash or dot. -/
theorem not_marker (h : IsWord (c :: s)) (dash : k.head? ≠ some '-') (dot : k.head? ≠ some '.') :
    isMarker (c :: s ++ k) = false := by
  obtain ⟨_, _, _, dashes, dots⟩ := h.not_indicator
  unfold isMarker
  split
  next rest heq =>
    match s, heq with
    | [], heq => cases heq; simp at dash
    | [_], heq => cases heq; simp at dash
    | _ :: _ :: _, heq => cases heq; simp at dashes
  next rest heq =>
    match s, heq with
    | [], heq => cases heq; simp at dot
    | [_], heq => cases heq; simp at dot
    | _ :: _ :: _, heq => cases heq; simp at dots
  next => rfl

/-- A word that ends is followed by what ends it. -/
theorem not_endsWord (h : IsWord (c :: s)) (is : c = '?' ∨ c = '-' ∨ c = ':') :
    endsWord (s ++ k) = false := by
  obtain ⟨_, mark, inner, _⟩ := h.not_indicator
  have more : endsWord s = false := by
    rcases is with is | is | rfl
    · exact mark (.inl is)
    · exact mark (.inr is)
    · simp only [hasInnerIndicator, Bool.or_eq_false_iff] at inner
      simpa using inner.1.1
  rw [endsWord_append (by rintro rfl; cases more)]
  exact more

/-- The lexer takes a word for a plain text. -/
theorem token_eq (h : IsWord (c :: s)) (dash : k.head? ≠ some '-') (dot : k.head? ≠ some '.')
    {l : Lexer} (outside : l.inFlow = false) : l.token c (s ++ k) = l.plain := by
  have marker := h.not_marker dash dot
  have blank := h.head_facts.1
  have opens := h.not_indicator.1
  simp only [opensOtherwise, List.mem_cons, List.not_mem_nil, or_false, decide_eq_false_iff_not,
    not_or] at opens
  rw [List.cons_append] at marker
  by_cases is : c = '?' ∨ c = '-' ∨ c = ':'
  · have ends := h.not_endsWord (k := k) is
    have noBlank : (s ++ k).head?.any isBlank = false := by
      cases hk : s ++ k with
      | nil => rfl
      | cons d rest =>
        rw [hk] at ends
        simp only [endsWord, Bool.or_eq_false_iff] at ends
        simpa using ends.1
    rw [List.head?_append] at noBlank
    rcases is with rfl | rfl | rfl
    · simp [token, marker, ends, outside]
    · simp [token, marker, ends, outside, noBlank]
    · simp [token, marker, ends, outside]
  · obtain ⟨mark, dash', colon⟩ : c ≠ '?' ∧ c ≠ '-' ∧ c ≠ ':' := by simpa using is
    simp [token, marker, outside, opens, mark, dash', colon, blank, opensNoPlain]

end IsWord

section
variable {allowed : Bool} {p : Position} {d : Settled} {rest : List Char} {taken : Taken}

theorem plain_inBlock
    (read : readPlain false (d.indent + 1).toNat .none p rest = some taken) :
    (inBlock allowed none p d rest).plain =
      some (inBlock taken.atBreak (candidateAt allowed p d) taken.position
        (d.emit (.scalar (String.ofList taken.text) true)) taken.rest) := by
  unfold plain
  rw [mark_inBlock, Option.bind_eq_bind, Option.bind_some]
  change (readPlain false (d.indent + 1).toNat .none p rest).bind _ = _
  rw [read]
  rfl

theorem quoted_inBlock {single : Bool} {quote : Char}
    (read : (if single then readSingle else readDouble) .none p.next rest = some taken) :
    (inBlock allowed none p d (quote :: rest)).quoted single =
      some (inBlock false (candidateAt allowed p d) taken.position
        (d.emit (.scalar (String.ofList taken.text) false)) taken.rest) := by
  unfold quoted
  rw [mark_inBlock, Option.bind_eq_bind, Option.bind_some]
  change ((if single then readSingle else readDouble) .none p.next rest).bind _ = _
  rw [read]
  rfl

/-- A text as a block of lines. -/
theorem reads_block (near : d.indent ≤ p.column)
    (read : readBlock true d.indent p.next rest = some taken)
    (shorter : taken.rest.length ≤ rest.length) :
    Reads (inBlock allowed none p d ('|' :: rest))
      (inBlock true none taken.position
        (d.emit (.scalar (String.ofList taken.text) false)) taken.rest) := by
  have token_ : (inBlock allowed none p d ('|' :: rest)).token '|' rest =
      (inBlock allowed none p d ('|' :: rest)).block true := by
    simp [token, isMarker, inFlow, inBlock]
  refine reads_token (k := none) (by simp [opensToken, isBlank, isBreak]) near fresh_none ?_ shorter
  rw [token_, block]
  change (readBlock true d.indent p.next rest).bind _ = _
  rw [read]
  rfl

end

/-- A text in the style it has, when that is not a block. -/
def inlineText (indent : Nat) (s : List Char) : List Char :=
  match styleOf s with
  | .single => '\'' :: singleBody indent false s ++ ['\'']
  | .double => '"' :: doubleBody s ++ ['"']
  | .plain | .block => s

theorem scalarLines_inline {indent : Nat} {s : List Char} (h : styleOf s ≠ .block) :
    scalarLines indent s = inlineText indent s ++ ['\n'] := by
  unfold scalarLines inlineText
  cases style : styleOf s with
  | plain => rfl
  | single => simp
  | double => simp
  | block => exact absurd style h

section
variable {allowed : Bool} {p : Position} {d : Settled} {k : List Char} {n m : Nat}

/-- Nothing is left of the candidate once the line has ended. -/
theorem reads_nextLine {c : Bool} {p' : Position} {d' : Settled} (off : d.indent < p.column)
    (opens : opensToken k = true) (later : p.line < p'.line) :
    Reads (inBlock c (candidateAt allowed p d) p' d' k) (inBlock c none p' d' k) := by
  apply reads_stale opens
  intro c hc
  obtain ⟨optional, there⟩ := candidateAt_optional off hc
  exact ⟨optional, there ▸ later⟩

/-- A word up to the end of its line. -/
theorem reads_wordLine (allowed : Bool) {s : List Char} (word : IsWord s) (there : d.indent = n)
    (off : n < p.column) (shallow : m ≤ n) (opens : opensToken k = true) :
    ∃ q : Position, q.column = m ∧
      Reads (inBlock allowed none p d (s ++ '\n' :: (spaces m ++ k)))
        (inBlock true none q (d.emit (.scalar (String.ofList s) true)) k) := by
  have column : ((p.after s).nextLine.after (spaces m)).column = m := by
    rw [column_after_spaces]
    exact Nat.zero_add m
  have line : p.line < ((p.after s).nextLine.after (spaces m)).line :=
    Nat.lt_of_lt_of_le (Nat.lt_succ_of_le (Position.line_le_after s p))
      (Position.line_le_after (spaces m) (p.after s).nextLine)
  refine ⟨_, column, ?_⟩
  obtain ⟨indicator, escapes, oneLine, _, _⟩ := word.facts
  cases s with
  | nil => exact absurd rfl word.some_
  | cons c s =>
    have far : (d.indent + 1).toNat = n + 1 := by omega
    have off' : d.indent < p.column := by omega
    have read : readPlain false (d.indent + 1).toNat .none p (c :: s ++ '\n' :: (spaces m ++ k)) =
        some { text := c :: s, rest := k, atBreak := true
               position := (p.after (c :: s)).nextLine.after (spaces m) } := by
      rw [far, readPlain_text word.not_indicator.2.2.1 escapes oneLine word.last_ne_space (by simp)
        rfl (by omega) (fun some_ => absurd rfl some_), readPlain_line rfl (by omega) opens]
      simp [Taken.behind, Gap.text]
    have token := word.token_eq (k := '\n' :: (spaces m ++ k)) (by simp) (by simp)
      (l := inBlock allowed none p d (c :: s ++ '\n' :: (spaces m ++ k))) rfl
    rw [plain_inBlock read] at token
    have shorter : k.length ≤ (s ++ '\n' :: (spaces m ++ k)).length := by
      simp only [List.length_append, List.length_cons]
      omega
    exact (reads_token (k := none) (word.opensToken _) (Int.le_of_lt off') fresh_none token
      shorter).trans (reads_nextLine off' opens line)

/-- A word up to the colon behind it. -/
theorem reads_wordColon {s : List Char} (word : IsWord s) (near : d.indent ≤ p.column)
    (ends : endsWord k = true) :
    Reads (inBlock allowed none p d (s ++ ':' :: k))
      (inBlock false (candidateAt allowed p d) (p.after s)
        (d.emit (.scalar (String.ofList s) true)) (':' :: k)) := by
  obtain ⟨indicator, escapes, oneLine, _, _⟩ := word.facts
  cases s with
  | nil => exact absurd rfl word.some_
  | cons c s =>
    have read : readPlain false (d.indent + 1).toNat .none p (c :: s ++ ':' :: k) =
        some { text := c :: s, rest := ':' :: k, position := p.after (c :: s) } := by
      rw [readPlain_text word.not_indicator.2.2.1 escapes oneLine word.last_ne_space (by simp) rfl
        (by omega) (fun some_ => absurd rfl some_), readPlain_colon rfl ends]
      simp [Taken.behind, Gap.text]
    have token := word.token_eq (k := ':' :: k) (by simp) (by simp)
      (l := inBlock allowed none p d (c :: s ++ ':' :: k)) rfl
    rw [plain_inBlock read] at token
    have shorter : (':' :: k).length ≤ (s ++ ':' :: k).length := by
      rw [List.length_append]
      omega
    exact reads_token (k := none) (word.opensToken _) near fresh_none token shorter

theorem reads_between (single : Bool) {quote : Char} {body text : List Char} {q : Position}
    (opens : ∀ rest, opensToken (quote :: rest) = true)
    (dispatched : ∀ (l : Lexer) (rest : List Char), l.token quote rest = l.quoted single)
    (near : d.indent ≤ p.column)
    (read : (if single then readSingle else readDouble) .none p.next (body ++ quote :: k) =
      some { text, rest := k, position := q }) :
    Reads (inBlock allowed none p d (quote :: (body ++ quote :: k)))
      (inBlock false (candidateAt allowed p d) q
        (d.emit (.scalar (String.ofList text) false)) k) := by
  refine reads_token (k := none) (opens _) near fresh_none
    ((dispatched _ _).trans (quoted_inBlock read)) ?_
  change k.length ≤ (body ++ quote :: k).length
  simp only [List.length_append, List.length_cons]
  omega

/-- A text between quotes. -/
theorem reads_quoted {s : String}
    (style : styleOf s.toList = .single ∨ styleOf s.toList = .double) (deep : 0 < n)
    (near : d.indent ≤ p.column) (stop : k.head? ≠ some '\'') :
    Reads (inBlock allowed none p d (inlineText n s.toList ++ k))
      (inBlock false (candidateAt allowed p d) (p.after (inlineText n s.toList))
        (d.emit (scalarToken s)) k) := by
  have made : scalarToken s = .scalar (String.ofList s.toList) false := by
    rcases style with style | style <;> simp [scalarToken, style, String.ofList_toList]
  rw [made]
  rcases style with style | style
  · obtain ⟨noLine, allowed_⟩ := singleAllowed_of_single style
    obtain ⟨escapes, spaced⟩ :
        needsEscapes s.toList = false ∧ hasSpaceAfterBreak s.toList = false := by
      simpa [singleAllowed] using allowed_
    have text : inlineText n s.toList =
        '\'' :: (singleBody n false s.toList ++ ['\'']) := by
      simp [inlineText, style]
    have there : p.after (inlineText n s.toList) =
        (p.next.after (singleBody n false s.toList)).next := by
      rw [text, Position.after_other (by decide), Position.after_append]
      rfl
    rw [there, text, List.cons_append, List.append_assoc]
    exact reads_between true
      (fun _ => by simp [opensToken, isBlank, isBreak]) (fun l rest => by simp [token, isMarker])
      near (readSingle_singleBody (g := .none) (p := p.next) deep trivial trivial noLine escapes
        spaced (fun _ => Nat.succ_pos _) stop)
  · have text : inlineText n s.toList = '"' :: (doubleBody s.toList ++ ['"']) := by
      simp [inlineText, style]
    have there : p.after (inlineText n s.toList) =
        (p.next.after (doubleBody s.toList)).next := by
      rw [text, Position.after_other (by decide), Position.after_append]
      rfl
    rw [there, text, List.cons_append, List.append_assoc]
    exact reads_between false
      (fun _ => by simp [opensToken, isBlank, isBreak]) (fun l rest => by simp [token, isMarker])
      near (readDouble_doubleBody (g := .none) (p := p.next) rfl (Nat.succ_pos _))

/-- A text in its own style, up to the end of its last line. -/
theorem reads_scalarLine (allowed : Bool) (s : String) (there : d.indent = n) (off : n < p.column)
    (shallow : m ≤ n) (opens : opensToken k = true) :
    ∃ q : Position, q.column = m ∧
      Reads (inBlock allowed none p d (scalarLines (n + 2) s.toList ++ (spaces m ++ k)))
        (inBlock true none q (d.emit (scalarToken s)) k) := by
  have near : d.indent ≤ p.column := by omega
  have quoted (style : styleOf s.toList = .single ∨ styleOf s.toList = .double) :
      ∃ q : Position, q.column = m ∧
        Reads (inBlock allowed none p d (scalarLines (n + 2) s.toList ++ (spaces m ++ k)))
          (inBlock true none q (d.emit (scalarToken s)) k) := by
    have noBlock : styleOf s.toList ≠ .block := by
      rcases style with style | style <;> rw [style] <;> nofun
    obtain ⟨q, column, lineEnd⟩ := reads_lineEnd false (n := m)
      (k := candidateAt allowed p d) (p := p.after (inlineText (n + 2) s.toList))
      (d := d.emit (scalarToken s)) opens fun c hc => by
        obtain ⟨optional, start⟩ := candidateAt_optional (by omega) hc
        exact ⟨optional, start ▸ Position.line_le_after _ _⟩
    refine ⟨q, column, ?_⟩
    rw [scalarLines_inline noBlock, List.append_assoc]
    exact (reads_quoted style (Nat.succ_pos _) near (by simp)).trans lineEnd
  cases style : styleOf s.toList with
  | plain =>
    have made : scalarToken s = .scalar (String.ofList s.toList) true := by
      simp [scalarToken, style, String.ofList_toList]
    rw [made, scalarLines, style, List.append_assoc]
    exact reads_wordLine allowed (isWord_of_plain style) there off shallow opens
  | single => exact quoted (.inl style)
  | double => exact quoted (.inr style)
  | block =>
    obtain ⟨line, allowed_⟩ := blockAllowed_of_block style
    have escapes : needsEscapes s.toList = false := by
      simp only [blockAllowed, Bool.and_eq_true, Bool.not_eq_true'] at allowed_
      exact allowed_.1
    obtain ⟨q, column, read⟩ := readBlock_written (n := n) (m := m) (p := p.next) (k := k)
      (List.ne_nil_of_mem line) escapes (by omega) opens
    have made : scalarToken s = .scalar (String.ofList s.toList) false := by
      simp [scalarToken, style, String.ofList_toList]
    refine ⟨q, column, ?_⟩
    have text : scalarLines (n + 2) s.toList ++ (spaces m ++ k) =
        '|' :: (indentHint s.toList ++ chomping s.toList ++
          '\n' :: (blockBody (n + 2) true s.toList ++ (spaces m ++ k))) := by
      simp [scalarLines, style]
    rw [made, text]
    refine reads_block near (by rw [there]; exact read) ?_
    simp only [List.length_append, List.length_cons]
    omega

end

theorem length_escaped (c : Char) : (escaped c).length ≤ 6 * c.utf8Size := by
  have size := c.utf8Size_pos
  unfold escaped
  split
  · simp only [List.length_cons, List.length_nil]
    omega
  · split
    · simp only [List.length_cons, length_upperHex]
      omega
    · split
      · simp only [List.length_cons, length_upperHex]
        omega
      · next large =>
        have four : c.utf8Size = 4 := by
          refine Char.utf8Size_eq_four_iff.2 (UInt32.lt_iff_toNat_lt.2 ?_)
          exact Nat.lt_of_not_le large
        simp only [List.length_cons, length_upperHex, four]
        omega

theorem length_doubleBody (s : List Char) : (doubleBody s).length ≤ 6 * byteLength s := by
  induction s with
  | nil => exact Nat.le_refl _
  | cons c s ih =>
    have unit : (doubleUnit c).length ≤ 6 * c.utf8Size := by
      have size := c.utf8Size_pos
      unfold doubleUnit
      split
      · exact length_escaped c
      · rw [List.length_singleton]
        omega
    have bytes : byteLength (c :: s) = c.utf8Size + byteLength s := rfl
    rw [doubleBody_cons, List.length_append, bytes]
    omega

theorem singleBody_facts (indent : Nat) {s : List Char} (oneLine : s.any isBreak = false) :
    (singleBody indent false s).any isBreak = false ∧
      (singleBody indent false s).length ≤ 6 * byteLength s := by
  induction s with
  | nil => exact ⟨rfl, Nat.le_refl _⟩
  | cons c s ih =>
    obtain ⟨here, later⟩ := Bool.or_eq_false_iff.1 oneLine
    obtain ⟨breaks, length⟩ := ih later
    have size := c.utf8Size_pos
    have bytes : byteLength (c :: s) = c.utf8Size + byteLength s := rfl
    have body : singleBody indent false (c :: s) =
        singleUnit c ++ singleBody indent false s := by
      simp [singleBody, here, singleUnit]
    have unit : (singleUnit c).any isBreak = false ∧ (singleUnit c).length ≤ 2 := by
      unfold singleUnit
      split
      · decide
      · simp [here]
    rw [body, List.any_append, List.length_append, bytes, breaks, unit.1]
    refine ⟨rfl, ?_⟩
    have := unit.2
    omega

theorem length_le_byteLength (s : List Char) : s.length ≤ byteLength s := by
  induction s with
  | nil => exact Nat.le_refl _
  | cons c s ih =>
    have size := c.utf8Size_pos
    have bytes : byteLength (c :: s) = c.utf8Size + byteLength s := rfl
    rw [List.length_cons, bytes]
    omega

/-- A text of one line stays on one line, and no style makes it much longer. -/
theorem inlineText_facts (indent : Nat) {s : List Char} (oneLine : s.any isBreak = false) :
    (inlineText indent s).any isBreak = false ∧
      (inlineText indent s).length ≤ 6 * byteLength s + 2 := by
  have bytes := length_le_byteLength s
  unfold inlineText
  split
  · obtain ⟨breaks, length⟩ := singleBody_facts indent oneLine
    refine ⟨by simp [breaks, isBreak], ?_⟩
    simp only [List.length_cons, List.length_append, List.length_nil]
    omega
  · have length := length_doubleBody s
    refine ⟨by simp [isBreak_doubleBody, isBreak], ?_⟩
    simp only [List.length_cons, List.length_append, List.length_nil]
    omega
  · exact ⟨oneLine, by omega⟩
  · exact ⟨oneLine, by omega⟩

section
variable {p : Position} {d : Settled} {k : List Char} {n : Nat}

/-- A key by itself, with its colon. -/
theorem reads_simpleKey {s : String} (simple : isSimpleKey s.toList = true)
    (there : p.column = n) (near : d.indent ≤ n) (ends : endsWord k = true) :
    ∃ q : Position, n < q.column ∧
      Reads (inBlock true none p d ((scalarLines (n + 2) s.toList).dropLast ++ ':' :: k))
        (inBlock false none q
          ((((d.enter n .blockMapping).emit .key).emit (scalarToken s)).emit .value) k) := by
  subst there
  obtain ⟨oneLine, short⟩ : s.toList.any isBreak = false ∧ byteLength s.toList ≤ 128 := by
    simpa [isSimpleKey] using simple
  obtain ⟨breaks, length⟩ := inlineText_facts (p.column + 2) oneLine
  have noBlock := styleOf_ne_block oneLine
  have near' : d.indent ≤ p.column := by omega
  have text : Reads (inBlock true none p d (inlineText (p.column + 2) s.toList ++ ':' :: k))
      (inBlock false (candidateAt true p d) (p.after (inlineText (p.column + 2) s.toList))
        (d.emit (scalarToken s)) (':' :: k)) := by
    cases style : styleOf s.toList with
    | plain =>
      have made : scalarToken s = .scalar (String.ofList s.toList) true := by
        simp [scalarToken, style, String.ofList_toList]
      have same : inlineText (p.column + 2) s.toList = s.toList := by simp [inlineText, style]
      rw [made, same]
      exact reads_wordColon (isWord_of_plain style) near' ends
    | single => exact reads_quoted (.inl style) (Nat.succ_pos _) near' (by simp)
    | double => exact reads_quoted (.inr style) (Nat.succ_pos _) near' (by simp)
    | block => exact absurd style noBlock
  rw [Position.after_eq_skip breaks] at text
  have fresh : (Candidate.mk d.tokens.length p (d.indent = p.column)).isStale
      (p.skip (inlineText (p.column + 2) s.toList).length) = false := by
    have near : ¬p.index + 1024 < p.index + (inlineText (p.column + 2) s.toList).length := by omega
    simp [Candidate.isStale, Position.skip, near]
  rw [scalarLines_inline noBlock, List.dropLast_concat]
  refine ⟨_, ?_, text.trans (reads_keyColon ?_ ends fresh)⟩
  · simp only [Position.skip, Position.next]
    omega
  · simp only [Position.skip]
    omega

end

end ClusterLifecycle.Yaml
