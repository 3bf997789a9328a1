import ClusterLifecycle.Proofs.Yaml.Quoted

/-!
Plain texts read back as they were written, up to the colon or the line that ends them.
-/

namespace ClusterLifecycle.Yaml

open Text

theorem endsWord_append {s : List Char} (h : s ≠ []) (k : List Char) :
    endsWord (s ++ k) = endsWord s := by
  cases s with
  | nil => contradiction
  | cons => rfl

/-- A line that ends ends its last word. -/
theorem endsWord_line (s k : List Char) : endsWord (s ++ '\n' :: k) = endsWord s := by
  cases s <;> rfl

theorem Taken.behind_nil (t : Taken) : t.behind [] = t := rfl

section
variable {indent : Nat} {gap : Gap} {p : Position} {c : Char} {rest : List Char}

theorem readPlain_break (h : isBreak c = true) :
    readPlain false indent gap p (c :: rest) =
      readPlain false indent (gap.addBreak c) p.nextLine rest := by
  rw [readPlain]
  simp [h]

theorem readPlain_space :
    readPlain false indent gap p (' ' :: rest) =
      readPlain false indent (gap.addBlank ' ') p.next rest := by
  rw [readPlain]
  simp [show isBreak ' ' = false by decide, show isBlank ' ' = true by decide]

/-- A character of a word goes on with the text. -/
theorem readPlain_word (h : isBreak c = false) (h' : isBlank c = false)
    (onward : gap ≠ .none → indent ≤ p.column ∧ 0 < p.column ∧ c ≠ '#')
    (colon : c = ':' → endsWord rest = false) :
    readPlain false indent gap p (c :: rest) =
      (readPlain false indent .none p.next rest).map (·.behind (gap.text ++ [c])) := by
  have goesOn : (decide (gap ≠ .none) && ((!false && decide (p.column < indent)) ||
      decide (c = '#') || (decide (p.column = 0) && isMarker (c :: rest)))) = false := by
    by_cases none : gap = .none
    · simp [none]
    · obtain ⟨deep, column, hash⟩ := onward none
      simp [none, hash, show ¬p.column < indent by omega, show p.column ≠ 0 by omega]
  have noColon : (decide (c = ':') && endsWord rest) = false := by
    by_cases is : c = ':'
    · simp [colon is]
    · simp [is]
  rw [readPlain]
  simp only [h, h', goesOn, noColon, Bool.false_and, Bool.or_self, Bool.false_eq_true, ↓reduceIte]

end

/-- A text without what would end it is taken as a whole. -/
theorem readPlain_text {indent : Nat} {s k : List Char} {gap : Gap} {p : Position}
    (inner : hasInnerIndicator s = false) (escapes : needsEscapes s = false)
    (oneLine : s.any isBreak = false) (last : s.getLast? ≠ some ' ')
    (flushed : s = [] → gap = .none) (noBreak : gap.hasBreak = false)
    (near : indent ≤ p.column + 1)
    (onward : gap ≠ .none → indent ≤ p.column ∧ 0 < p.column ∧ s.head? ≠ some '#') :
    readPlain false indent gap p (s ++ k) =
      (readPlain false indent .none (p.after s) k).map (·.behind (gap.text ++ s)) := by
  induction s generalizing gap p with
  | nil =>
    obtain rfl := flushed rfl
    simp [Gap.text, Taken.behind_nil]
  | cons c s ih =>
    obtain ⟨printable, _, later⟩ := needsEscapes_cons escapes
    simp only [hasInnerIndicator, Bool.or_eq_false_iff] at inner
    obtain ⟨⟨colon, comment⟩, inner⟩ := inner
    obtain ⟨breakless, oneLine⟩ := Bool.or_eq_false_iff.1 oneLine
    have last' : s.getLast? ≠ some ' ' := by
      cases s with
      | nil => simp
      | cons => simpa using last
    by_cases blank : c = ' '
    · subst blank
      have more : s ≠ [] := by
        rintro rfl
        simp at last
      have same : (gap.addBlank ' ').hasBreak = false := by rw [Gap.hasBreak_addBlank, noBreak]
      have onward' : indent ≤ p.next.column ∧ 0 < p.next.column ∧ s.head? ≠ some '#' := by
        refine ⟨near, Nat.succ_pos _, ?_⟩
        simpa [show isBlank ' ' = true by decide] using comment
      rw [List.cons_append, readPlain_space, ih inner later oneLine last'
        (fun none => absurd none more) same (Nat.le_succ_of_le near) (fun _ => onward'),
        Gap.text_addBlank noBreak, List.append_assoc, Position.after_other breakless]
      rfl
    · have notBlank : isBlank c = false := by
        rw [isBlank_of_isPrintable printable, decide_eq_false blank]
      have colon' : c = ':' → endsWord (s ++ k) = false := by
        rintro rfl
        have ends : endsWord s = false := by simpa using colon
        rw [endsWord_append (by rintro rfl; cases ends)]
        exact ends
      have onward' : gap ≠ .none → indent ≤ p.column ∧ 0 < p.column ∧ c ≠ '#' := by
        intro some_
        obtain ⟨deep, column, hash⟩ := onward some_
        exact ⟨deep, column, by simpa using hash⟩
      rw [List.cons_append, readPlain_word breakless notBlank onward' colon',
        ih inner later oneLine last' (fun _ => rfl) rfl (Nat.le_succ_of_le near)
          (fun none => absurd rfl none), map_behind_behind, Position.after_other breakless]
      simp [Gap.text]

/-- Where a token may begin, or the text ends. -/
def opensToken : List Char → Bool
  | [] => true
  | c :: _ => !(isBlank c || isBreak c || c = '#')

theorem opensToken_cons {c : Char} {rest : List Char} (h : opensToken (c :: rest) = true) :
    isBlank c = false ∧ isBreak c = false ∧ c ≠ '#' := by
  simp only [opensToken, Bool.not_eq_true', Bool.or_eq_false_iff, decide_eq_false_iff_not] at h
  exact ⟨h.1.1, h.1.2, h.2⟩

/-- A colon that ends a word ends the text before it. -/
theorem readPlain_colon {indent : Nat} {gap : Gap} {p : Position} {k : List Char}
    (noBreak : gap.hasBreak = false) (h : endsWord k = true) :
    readPlain false indent gap p (':' :: k) =
      some { text := [], rest := ':' :: k, position := p } := by
  rw [readPlain]
  simp [isBreak, isBlank, h, noBreak]

theorem readPlain_spaces {indent : Nat} {gap : Gap} (h : gap.hasBreak = true) (n : Nat)
    (p : Position) (k : List Char) :
    readPlain false indent gap p (spaces n ++ k) =
      readPlain false indent gap (p.after (spaces n)) k := by
  induction n generalizing p with
  | zero => rfl
  | succ n ih =>
    change readPlain false indent gap p (' ' :: (spaces n ++ k)) = _
    rw [readPlain_space, Gap.addBlank_of_hasBreak h, ih]
    rfl

theorem Gap.addBreak_of_noBreak {gap : Gap} (noBreak : gap.hasBreak = false) (c : Char) :
    gap.addBreak c = .breaks (some c) [] := by
  cases gap with
  | none | blanks => rfl
  | breaks => cases noBreak

/-- A line that is not indented far enough ends the text, whatever blanks stand before it. -/
theorem readPlain_line {indent n : Nat} {gap : Gap} {p : Position} {k : List Char}
    (noBreak : gap.hasBreak = false) (shallow : n < indent) (opens : opensToken k = true) :
    readPlain false indent gap p ('\n' :: (spaces n ++ k)) =
      some { text := [], rest := k, position := p.nextLine.after (spaces n), atBreak := true } := by
  rw [readPlain_break (by decide), Gap.addBreak_of_noBreak noBreak, readPlain_spaces (by rfl)]
  have column : (p.nextLine.after (spaces n)).column = n := by
    rw [column_after_spaces]
    exact Nat.zero_add n
  cases k with
  | nil => rfl
  | cons c rest =>
    obtain ⟨blank, break_, hash⟩ := opensToken_cons opens
    rw [readPlain]
    simp [blank, break_, column, shallow, Gap.hasBreak]

end ClusterLifecycle.Yaml
