import ClusterLifecycle.Proofs.Yaml.PlainText

/-!
Blocks read back as they were written: the margin is taken off every line, and the mark of how a
block ends gives back the line ends that its text has at its end.
-/

namespace ClusterLifecycle.Yaml

open Text

namespace Block

variable {b : Block} {p : Position} {c : Char} {rest : List Char}

theorem read_char (h : isBreak c = false) :
    b.read true p (c :: rest) = (b.read true p.next rest).map (·.behind [c]) := by
  rw [read]
  simp [h]

theorem read_lineEnd (h : isBreak c = true) :
    b.read true p (c :: rest) =
      read { b with lineEnd := [c], emptyLines := [] } false p.nextLine rest := by
  rw [read]
  simp [h]

theorem read_spaces (n : Nat) (k : List Char) (margin : b.indent = 0 ∨ p.column + n ≤ b.indent) :
    b.read false p (spaces n ++ k) = b.read false (p.after (spaces n)) k := by
  induction n generalizing p with
  | zero => rfl
  | succ n ih =>
    have inside : b.indent = 0 ∨ p.column < b.indent := by omega
    change b.read false p (' ' :: (spaces n ++ k)) = _
    rw [read]
    simp only [Bool.false_eq_true, ↓reduceIte, inside, decide_true, Bool.and_self,
      ← Bool.decide_or]
    rw [ih (by simp only [Position.next]; omega)]
    rfl

theorem read_emptyLine (h : isBreak c = true) :
    b.read false p (c :: rest) =
      read { b with widest := max b.widest p.column, emptyLines := c :: b.emptyLines } false
        p.nextLine rest := by
  have space : c ≠ ' ' := by rintro rfl; cases h
  have tab : c ≠ '\t' := by rintro rfl; cases h
  rw [read]
  simp [h, space, tab]

/-- The first character of a line; the lines before it are settled now. -/
theorem read_lineStart (literal : b.literal = true) (h : isBreak c = false)
    (known : b.indent = p.column) (deep : 0 < p.column) :
    b.read false p (c :: rest) =
      (read { b with lineEnd := [], emptyLines := [], startsBlank := isBlank c } true p.next
        rest).map (·.behind (b.lineEnd ++ b.emptyLines.reverse ++ [c])) := by
  have nonzero : p.column ≠ 0 := by omega
  rw [read]
  simp [h, known, nonzero, joint, literal]

/-- The first line of a block shows how far it is indented. -/
theorem read_firstLine (literal : b.literal = true) (h : isBreak c = false) (h' : isBlank c = false)
    (open_ : b.indent = 0) (widest : b.widest ≤ p.column)
    (least : b.least ≤ p.column) :
    b.read false p (c :: rest) =
      (read { b with
        indent := p.column, lineEnd := [], emptyLines := [], startsBlank := false } true p.next
        rest).map (·.behind (b.lineEnd ++ b.emptyLines.reverse ++ [c])) := by
  obtain ⟨space, tab⟩ : c ≠ ' ' ∧ c ≠ '\t' := by simpa [isBlank] using h'
  have indent : max (max b.widest p.column) b.least = p.column := by omega
  rw [read]
  simp [h, h', open_, space, tab, joint, literal, indent]

/-- A line that is not indented far enough ends the block. -/
theorem read_stop {n indent : Nat} {k : List Char} (known : b.indent = indent)
    (shallow : n < indent) (column : p.column = 0) (opens : opensToken k = true) :
    b.read false p (spaces n ++ k) =
      some { text := b.tail, rest := k, position := p.after (spaces n) } := by
  have there : (p.after (spaces n)).column = n := by
    rw [column_after_spaces, column, Nat.zero_add]
  rw [read_spaces n k (.inr (by omega))]
  cases k with
  | nil => rfl
  | cons c rest =>
    obtain ⟨blank, break_, _⟩ := opensToken_cons opens
    obtain ⟨space, tab⟩ : c ≠ ' ' ∧ c ≠ '\t' := by simpa [isBlank] using blank
    have nonzero : indent ≠ 0 := by omega
    rw [read]
    simp [break_, known, nonzero, space, tab, there, show n ≠ indent by omega]

/-- Whether a line is open after a character, and the empty lines since the last one with text. -/
def lineStep (state : Bool × List Char) (c : Char) : Bool × List Char :=
  if isBreak c then (false, if state.1 then [] else c :: state.2) else (true, [])

/-- What the text has at its end is what the mark leaves there. -/
def Fits : Chomping → Bool × List Char → Prop
  | .strip, state => state.1 = true
  | .clip, state => state = (false, [])
  | .keep, state => state.1 = false

/-- What came before an open line does not matter. -/
theorem Fits.of_open {ch : Chomping} {s before : List Char}
    (h : Fits ch (s.foldl lineStep (true, []))) : Fits ch (s.foldl lineStep (true, before)) := by
  cases s with
  | nil => cases ch <;> simp [Fits] at h ⊢
  | cons c s => exact h

theorem lineStep_break {inLine : Bool} {before : List Char} (h : isBreak c = true) :
    lineStep (inLine, before) c = (false, if inLine then [] else c :: before) := by
  simp [lineStep, h]

theorem lineStep_other (state : Bool × List Char) (h : isBreak c = false) :
    lineStep state c = (true, []) := by
  simp [lineStep, h]

theorem blockBody_break (indent : Nat) (atStart : Bool) (h : isBreak c = true) (s : List Char) :
    blockBody indent atStart (c :: s) = c :: blockBody indent true s := by
  simp [blockBody, h]

theorem blockBody_other (indent : Nat) (atStart : Bool) (h : isBreak c = false) (s : List Char) :
    blockBody indent atStart (c :: s) =
      (if atStart then spaces indent else []) ++ c :: blockBody indent false s := by
  simp [blockBody, h]

/-- What follows the last line gives the line ends that the mark stands for. -/
theorem read_blockEnd {n indent : Nat} {k : List Char} {inLine : Bool}
    (known : b.indent = indent) (fits : Fits b.chomping (inLine, b.emptyLines))
    (start : inLine = false → p.column = 0) (shallow : n < indent) (opens : opensToken k = true) :
    ∃ q : Position, q.column = n ∧
      b.read inLine p (blockBody indent (!inLine) [] ++ (spaces n ++ k)) =
        some { text := if inLine then [] else b.lineEnd ++ b.emptyLines.reverse
               rest := k, position := q } := by
  have column (p : Position) (h : p.column = 0) : (p.after (spaces n)).column = n := by
    rw [column_after_spaces, h, Nat.zero_add]
  cases inLine with
  | true =>
    have strip : b.chomping = .strip := by
      cases h : b.chomping <;> simp [h, Fits] at fits ⊢
    have stop := read_stop (b := { b with lineEnd := ['\n'], emptyLines := [] })
      (p := p.nextLine) known shallow rfl opens
    refine ⟨p.nextLine.after (spaces n), column _ rfl, ?_⟩
    change b.read true p ('\n' :: (spaces n ++ k)) = _
    rw [read_lineEnd (by decide), stop]
    simp [tail, strip]
  | false =>
    have whole : b.tail = b.lineEnd ++ b.emptyLines.reverse := by
      cases h : b.chomping <;> simp [h, Fits, tail] at fits ⊢
      exact fits
    refine ⟨p.after (spaces n), column _ (start rfl), ?_⟩
    change b.read false p (spaces n ++ k) = _
    rw [read_stop known shallow (start rfl) opens, whole]
    simp

/-- What stands in the lines of a block reads back as what was put there. -/
theorem read_blockBody {b : Block} {p : Position} {n indent : Nat} {s k : List Char}
    {inLine : Bool} (literal : b.literal = true) (known : b.indent = indent)
    (fits : Fits b.chomping (s.foldl lineStep (inLine, b.emptyLines)))
    (start : inLine = false → p.column = 0) (shallow : n < indent)
    (opens : opensToken k = true) :
    ∃ q : Position, q.column = n ∧
      b.read inLine p (blockBody indent (!inLine) s ++ (spaces n ++ k)) =
        some { text := (if inLine then [] else b.lineEnd ++ b.emptyLines.reverse) ++ s
               rest := k, position := q } := by
  induction s generalizing b p inLine with
  | nil =>
    obtain ⟨q, there, read⟩ := read_blockEnd known fits start shallow opens
    refine ⟨q, there, ?_⟩
    rw [read, List.append_nil]
  | cons c s ih =>
    rw [List.foldl_cons] at fits
    cases hc : isBreak c with
    | true =>
      rw [lineStep_break hc] at fits
      rw [blockBody_break indent _ hc, List.cons_append]
      cases inLine with
      | true =>
        obtain ⟨q, there, read⟩ := ih (b := { b with lineEnd := [c], emptyLines := [] })
          (p := p.nextLine) literal known fits (fun _ => rfl)
        refine ⟨q, there, ?_⟩
        change b.read true p (c :: (blockBody indent (!false) s ++ _)) = _
        rw [read_lineEnd hc, read]
        simp
      | false =>
        obtain ⟨q, there, read⟩ := ih (b := { b with
            widest := max b.widest p.column, emptyLines := c :: b.emptyLines })
          (p := p.nextLine) literal known fits (fun _ => rfl)
        refine ⟨q, there, ?_⟩
        change b.read false p (c :: (blockBody indent (!false) s ++ _)) = _
        rw [read_emptyLine hc, read]
        simp
    | false =>
      rw [lineStep_other _ hc] at fits
      rw [blockBody_other indent _ hc, List.append_assoc, List.cons_append]
      cases inLine with
      | true =>
        obtain ⟨q, there, read⟩ := ih (p := p.next) literal known fits.of_open nofun
        refine ⟨q, there, ?_⟩
        change b.read true p (c :: (blockBody indent (!true) s ++ _)) = _
        rw [read_char hc, read]
        simp [Taken.behind]
      | false =>
        have margin := column_after_spaces indent p
        rw [start rfl, Nat.zero_add] at margin
        obtain ⟨q, there, read⟩ := ih
          (b := { b with lineEnd := [], emptyLines := [], startsBlank := isBlank c })
          (p := (p.after (spaces indent)).next) literal known fits nofun
        refine ⟨q, there, ?_⟩
        change b.read false p (spaces indent ++ c :: (blockBody indent (!true) s ++ _)) = _
        rw [read_spaces indent _ (.inr (by rw [start rfl]; omega)),
          read_lineStart literal hc (by rw [known, margin]) (by omega), read]
        simp [Taken.behind]

end Block

open Block

theorem foldl_lineStep_concat (s : List Char) (c : Char) (state : Bool × List Char) :
    (s ++ [c]).foldl lineStep state = lineStep (s.foldl lineStep state) c := by
  simp

/-- How a text that is not empty ends is what its marks say. -/
theorem chomping_fits {s : List Char} (some_ : s ≠ []) :
    (chomping s = ['-'] ∧ Fits .strip (s.foldl lineStep (false, []))) ∨
    (chomping s = ['+'] ∧ Fits .keep (s.foldl lineStep (false, []))) ∨
    (chomping s = [] ∧ Fits .clip (s.foldl lineStep (false, []))) := by
  obtain ⟨before, c, rfl⟩ := List.eq_nil_or_concat s |>.resolve_left some_
  rw [List.concat_eq_append, foldl_lineStep_concat]
  unfold chomping
  rw [List.reverse_concat]
  by_cases ends : isBreak c = true
  · obtain rfl | ⟨first, d, rfl⟩ := List.eq_nil_or_concat before
    · simp [ends, Fits, lineStep]
    · rw [List.concat_eq_append, List.reverse_concat, foldl_lineStep_concat]
      by_cases ends' : isBreak d = true
      · simp [ends, ends', Fits, lineStep]
      · simp [ends, ends', Fits, lineStep]
  · simp [ends, Fits, lineStep]

/-- The marks of a block read back as what they say. -/
theorem blockMarks_written {s : List Char} (some_ : s ≠ []) (k : List Char) :
    ∃ ch, Fits ch (s.foldl lineStep (false, [])) ∧
      blockMarks (indentHint s ++ chomping s ++ '\n' :: k) =
        some (ch, if s.head?.any isSpaceOrBreak then 2 else 0, '\n' :: k) := by
  obtain ⟨mark, fits⟩ | ⟨mark, fits⟩ | ⟨mark, fits⟩ := chomping_fits some_
  all_goals
    refine ⟨_, fits, ?_⟩
    rw [mark]
    cases hint : s.head?.any isSpaceOrBreak <;> simp only [indentHint, hint] <;> rfl

theorem restOfLine_break (k : List Char) : restOfLine ('\n' :: k) = some (k, true) := by
  simp [restOfLine, List.dropWhile, show isBlank '\n' = false by decide,
    show isBreak '\n' = true by decide]

/-- What stands in a block reads back as what was put there. -/
theorem readBlock_written {n m : Nat} {p : Position} {s k : List Char} (some_ : s ≠ [])
    (escapes : needsEscapes s = false) (shallow : m < n + 2) (opens : opensToken k = true) :
    ∃ q : Position, q.column = m ∧
      readBlock true n p
          (indentHint s ++ chomping s ++ '\n' :: (blockBody (n + 2) true s ++ (spaces m ++ k))) =
        some { text := s, rest := k, position := q } := by
  obtain ⟨ch, fits, marks⟩ := blockMarks_written some_ (blockBody (n + 2) true s ++ (spaces m ++ k))
  have least : max ((n : Int) + 1).toNat 1 = n + 1 := by omega
  have parent : (max (n : Int) 0).toNat = n := by omega
  cases hint : s.head?.any isSpaceOrBreak with
  | true =>
    let b : Block := { literal := true, chomping := ch, least := n + 1, indent := n + 2 }
    obtain ⟨q, there, read⟩ := read_blockBody (b := b) (p := p.nextLine) rfl rfl fits
      (fun _ => rfl) shallow opens
    refine ⟨q, there, ?_⟩
    simp only [readBlock, marks, hint, Option.bind_eq_bind, Option.bind_some, restOfLine_break,
      least, parent]
    exact read
  | false =>
    cases s with
    | nil => contradiction
    | cons c s =>
      obtain ⟨space, noBreak⟩ : c ≠ ' ' ∧ isBreak c = false := by
        simpa [isSpaceOrBreak] using hint
      have notBlank : isBlank c = false := by
        rw [isBlank_of_isPrintable (needsEscapes_cons escapes).1, decide_eq_false space]
      rw [List.foldl_cons, lineStep_other _ noBreak] at fits
      let b : Block := { literal := true, chomping := ch, least := n + 1, indent := 0 }
      have column : (p.nextLine.after (spaces (n + 2))).column = n + 2 := by
        rw [column_after_spaces]
        exact Nat.zero_add _
      obtain ⟨q, there, read⟩ := read_blockBody
        (b := { b with indent := n + 2 })
        (p := (p.nextLine.after (spaces (n + 2))).next) rfl rfl fits nofun shallow opens
      refine ⟨q, there, ?_⟩
      simp only [readBlock, marks, hint, Option.bind_eq_bind, Option.bind_some, restOfLine_break,
        least, parent]
      change b.read false p.nextLine _ = _
      rw [blockBody_other _ _ noBreak, if_pos rfl, List.append_assoc, List.cons_append,
        read_spaces (n + 2) _ (.inl rfl),
        read_firstLine rfl noBreak notBlank rfl (Nat.zero_le _)
          (by rw [column]; exact Nat.le_succ _),
        column]
      exact congrArg _ read

end ClusterLifecycle.Yaml
