import ClusterLifecycle.Proofs.Digits
import ClusterLifecycle.Proofs.Lookups
import ClusterLifecycle.Proofs.Yaml.Quoted

/-!
Texts in double quotes read back as they were written: escapes stand on one line, and each gives
its character.
-/

namespace ClusterLifecycle.Yaml

open Text

/-- A letter that names a character is read as that character, and does not announce a code. -/
theorem escapeLetter?_facts {c letter : Char} (h : escapeLetter? c = some letter) :
    escapeOf? letter = some c ∧ isBreak letter = false ∧ letter ≠ 'x' ∧ letter ≠ 'u' ∧
      letter ≠ 'U' :=
  of_lookup (p := fun c letter => escapeOf? letter = some c ∧ isBreak letter = false ∧
    letter ≠ 'x' ∧ letter ≠ 'u' ∧ letter ≠ 'U') (by decide) h

/-- What announces a code of so many digits. -/
def Announces (announced : Char) (width : Nat) : Prop :=
  announced = 'x' ∧ width = 2 ∨ announced = 'u' ∧ width = 4 ∨ announced = 'U' ∧ width = 8

section
variable {gap : Gap} {p : Position} {c : Char} {rest : List Char}

theorem readDouble_end (inLine : 0 < p.column) :
    readDouble gap p ('"' :: rest) = some { text := gap.text, rest, position := p.next } := by
  have column : p.column ≠ 0 := by omega
  rw [readDouble.eq_def]
  simp [show isBreak '"' = false by decide, show isBlank '"' = false by decide, column]

theorem readDouble_other (inLine : 0 < p.column) (h : isBreak c = false) (h' : isBlank c = false)
    (quote : c ≠ '"') (backslash : c ≠ '\\') :
    readDouble gap p (c :: rest) =
      (readDouble .none p.next rest).map (·.behind (gap.text ++ [c])) := by
  have column : p.column ≠ 0 := by omega
  rw [readDouble.eq_def]
  simp [h, h', quote, backslash, column]

theorem readDouble_letter {letter : Char} (inLine : 0 < p.column)
    (named : escapeLetter? c = some letter) :
    readDouble gap p ('\\' :: letter :: rest) =
      (readDouble .none (p.skip 2) rest).map (·.behind (gap.text ++ [c])) := by
  have column : p.column ≠ 0 := by omega
  obtain ⟨escape, noBreak, x, u, U⟩ := escapeLetter?_facts named
  rw [readDouble.eq_def]
  simp only [show isBreak '\\' = false by decide, show isBlank '\\' = false by decide, column,
    decide_false, Bool.false_and, Bool.false_eq_true, ↓reduceIte, show '\\' ≠ '"' by decide]
  split <;> simp_all

theorem coded?_upperHex {width : Nat} (some_ : 0 < width) (h : c.toNat < Nat.pow 16 width) :
    coded? (upperHex width c.toNat) = some c := by
  have valid : c.toNat.isValidChar := c.valid
  simp [coded?, number?_upperHex some_ h, valid, Char.ofNat_toNat]

theorem readDouble_code {digits : List Char} {announced : Char} (inLine : 0 < p.column)
    (code : coded? digits = some c)
    (width : Announces announced digits.length) :
    readDouble gap p ('\\' :: announced :: (digits ++ rest)) =
      (readDouble .none (p.skip (digits.length + 2)) rest).map
        (·.behind (gap.text ++ [c])) := by
  have column : p.column ≠ 0 := by omega
  rw [readDouble.eq_def]
  simp only [show isBreak '\\' = false by decide, show isBlank '\\' = false by decide, column,
    decide_false, Bool.false_and, Bool.false_eq_true, ↓reduceIte, show '\\' ≠ '"' by decide]
  rcases width with ⟨rfl, width⟩ | ⟨rfl, width⟩ | ⟨rfl, width⟩
  · match digits, width with
    | [_, _], _ => simp [code]
  · match digits, width with
    | [_, _, _, _], _ => simp [code]
  · match digits, width with
    | [_, _, _, _, _, _, _, _], _ => simp [code]

end

theorem isBreak_upperHex (width n : Nat) : (upperHex width n).any isBreak = false := by
  have digit : ∀ m < 16, isBreak (upperHexDigit m) = false := by decide
  induction width generalizing n with
  | zero => rfl
  | succ width ih =>
    simp [upperHex, List.any_append, ih, digit (n % 16) (Nat.mod_lt n (by decide))]

/-- An escape is a letter, or a code of two, four or eight digits. -/
theorem escaped_cases (c : Char) :
    (∃ letter, escapeLetter? c = some letter ∧ escaped c = ['\\', letter]) ∨
      ∃ announced width, escaped c = '\\' :: announced :: upperHex width c.toNat ∧
        Announces announced width ∧ c.toNat < Nat.pow 16 width := by
  cases named : escapeLetter? c with
  | some letter => exact .inl ⟨letter, rfl, by simp [escaped, named]⟩
  | none =>
    by_cases small : c.toNat ≤ 0xFF
    · exact .inr ⟨'x', 2, by simp [escaped, named, small], .inl ⟨rfl, rfl⟩,
        Nat.lt_succ_of_le small⟩
    · by_cases medium : c.toNat ≤ 0xFFFF
      · exact .inr ⟨'u', 4, by simp [escaped, named, small, medium], .inr (.inl ⟨rfl, rfl⟩),
          Nat.lt_succ_of_le medium⟩
      · exact .inr ⟨'U', 8, by simp [escaped, named, small, medium], .inr (.inr ⟨rfl, rfl⟩),
          Nat.lt_of_lt_of_le c.val.toNat_lt (by decide)⟩

theorem Announces.facts {announced : Char} {width : Nat} (h : Announces announced width) :
    0 < width ∧ isBreak announced = false := by
  rcases h with ⟨rfl, rfl⟩ | ⟨rfl, rfl⟩ | ⟨rfl, rfl⟩ <;> decide

/-- A character as it is written between double quotes. -/
def doubleUnit (c : Char) : List Char :=
  if !isPrintable c || isBreak c || c = '"' || c = '\\' then escaped c else [c]

theorem doubleBody_cons (c : Char) (s : List Char) :
    doubleBody (c :: s) = doubleUnit c ++ doubleBody s := rfl

theorem isBreak_escaped (c : Char) : (escaped c).any isBreak = false := by
  rcases escaped_cases c with ⟨letter, named, is⟩ | ⟨announced, width, is, announces, _⟩
  · simp [is, (escapeLetter?_facts named).2.1, show isBreak '\\' = false by decide]
  · simp [is, announces.facts.2, isBreak_upperHex, show isBreak '\\' = false by decide]

theorem isBreak_doubleUnit (c : Char) : (doubleUnit c).any isBreak = false := by
  unfold doubleUnit
  split
  next => exact isBreak_escaped c
  next h =>
    simp only [Bool.or_eq_true, not_or] at h
    simp [h.1.1.2]

/-- What stands between double quotes stands on one line. -/
theorem isBreak_doubleBody (s : List Char) : (doubleBody s).any isBreak = false := by
  induction s with
  | nil => rfl
  | cons c s ih => rw [doubleBody_cons, List.any_append, isBreak_doubleUnit, ih, Bool.or_false]

theorem readDouble_escaped {gap : Gap} {p : Position} (c : Char) (inLine : 0 < p.column)
    (k : List Char) :
    readDouble gap p (escaped c ++ k) =
      (readDouble .none (p.after (escaped c)) k).map (·.behind (gap.text ++ [c])) := by
  rw [Position.after_eq_skip (isBreak_escaped c)]
  rcases escaped_cases c with ⟨letter, named, is⟩ | ⟨announced, width, is, announces, fits⟩
  · rw [is]
    exact readDouble_letter inLine named
  · have code := coded?_upperHex announces.facts.1 fits
    rw [is]
    exact readDouble_code inLine code (by rwa [length_upperHex])

/-- What stands between double quotes reads back as what was put there. -/
theorem readDouble_doubleBody {s rest : List Char} {g : Gap} {p : Position}
    (h : g.hasBreak = false) (inLine : 0 < p.column) :
    readDouble g p (doubleBody s ++ '"' :: rest) =
      some { text := g.text ++ s, rest, position := (p.after (doubleBody s)).next } := by
  induction s generalizing g p with
  | nil =>
    change readDouble g p ('"' :: rest) = _
    rw [readDouble_end inLine, List.append_nil]
    rfl
  | cons c s ih =>
    have onward : 0 < (p.after (doubleUnit c)).column := by
      rw [Position.after_eq_skip (isBreak_doubleUnit c)]
      exact Nat.lt_of_lt_of_le inLine (Nat.le_add_right _ _)
    have flushed := ih (g := .none) rfl onward
    rw [doubleBody_cons, List.append_assoc, Position.after_append]
    unfold doubleUnit at flushed onward ⊢
    split
    next escape =>
      rw [if_pos escape] at flushed
      rw [readDouble_escaped c inLine, flushed]
      simp [Taken.behind, Gap.text]
    next plain =>
      rw [if_neg plain] at flushed onward
      simp only [Bool.or_eq_true, Bool.not_eq_true', decide_eq_true_eq, not_or,
        Bool.not_eq_false, Bool.not_eq_true] at plain
      obtain ⟨⟨⟨printable, noBreak⟩, quote⟩, backslash⟩ := plain
      by_cases blank : c = ' '
      · subst blank
        have same : (g.addBlank ' ').hasBreak = false := by rw [Gap.hasBreak_addBlank, h]
        change readDouble g p (' ' :: (doubleBody s ++ '"' :: rest)) = _
        have rest' := ih (g := g.addBlank ' ') (p := p.next) same (Nat.succ_pos _)
        rw [readDouble_blank (by decide), rest', Gap.text_addBlank h, List.append_assoc]
        rfl
      · have notBlank : isBlank c = false := by
          rw [isBlank_of_isPrintable printable, decide_eq_false blank]
        rw [Position.after_other noBreak] at flushed ⊢
        change readDouble g p (c :: (doubleBody s ++ '"' :: rest)) = _
        rw [readDouble_other inLine noBreak notBlank quote backslash]
        change Option.map _ (readDouble .none (p.next.after []) _) = _
        rw [flushed]
        simp [Taken.behind, Gap.text]

end ClusterLifecycle.Yaml
