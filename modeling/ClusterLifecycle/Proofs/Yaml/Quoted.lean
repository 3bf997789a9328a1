import ClusterLifecycle.Yaml.Scalar
import ClusterLifecycle.Yaml.Writer

/-!
Quoted texts read back as they were written.

* `Position.after`: where a text leads;
* `readSingle_singleBody`, `readDouble_doubleBody`: the readers undo the writers.
-/

namespace ClusterLifecycle.Yaml

open Text

namespace Position

/-- The position behind a text. -/
def after : List Char → Position → Position
  | [], p => p
  | c :: rest, p => after rest (if isBreak c then p.nextLine else p.next)

@[simp] theorem after_nil (p : Position) : p.after [] = p := rfl

theorem after_break {c : Char} (h : isBreak c = true) (rest : List Char) (p : Position) :
    p.after (c :: rest) = p.nextLine.after rest := by
  simp [after, h]

theorem after_other {c : Char} (h : isBreak c = false) (rest : List Char) (p : Position) :
    p.after (c :: rest) = p.next.after rest := by
  simp [after, h]

theorem after_append (s t : List Char) (p : Position) : p.after (s ++ t) = (p.after s).after t := by
  induction s generalizing p with
  | nil => rfl
  | cons c rest ih => exact ih _

theorem line_le_after (s : List Char) (p : Position) : p.line ≤ (p.after s).line := by
  induction s generalizing p with
  | nil => exact Nat.le_refl _
  | cons c rest ih =>
    refine Nat.le_trans ?_ (ih _)
    split
    · exact Nat.le_succ _
    · exact Nat.le_refl _

/-- A text without line ends leads on in the same line. -/
theorem after_eq_skip {s : List Char} (h : s.any isBreak = false) (p : Position) :
    p.after s = p.skip s.length := by
  induction s generalizing p with
  | nil => rfl
  | cons c rest ih =>
    obtain ⟨hc, hrest⟩ := Bool.or_eq_false_iff.1 h
    rw [after_other hc, ih hrest]
    simp only [skip, next, List.length_cons, Position.mk.injEq, true_and]
    omega

end Position

theorem Taken.behind_behind (s t : List Char) (taken : Taken) :
    (taken.behind t).behind s = taken.behind (s ++ t) := by
  simp [behind]

theorem map_behind_behind (s t : List Char) (taken : Option Taken) :
    (taken.map (·.behind t)).map (·.behind s) = taken.map (·.behind (s ++ t)) := by
  simp [Function.comp_def, Taken.behind_behind]

theorem isBreak_space : isBreak ' ' = false := by decide

/-- A printable character is no tab. -/
theorem isBlank_of_isPrintable {c : Char} (h : isPrintable c = true) :
    isBlank c = decide (c = ' ') := by
  by_cases ht : c = '\t'
  · subst ht
    exact absurd h (by decide)
  · simp [isBlank, ht]

theorem hasSpaceBeforeBreak_cons (c : Char) (rest : List Char) :
    hasSpaceBeforeBreak (c :: rest) =
      (c = ' ' && rest.head?.any isBreak || hasSpaceBeforeBreak rest) := by
  cases rest <;> simp [hasSpaceBeforeBreak, adjacent]

theorem hasSpaceAfterBreak_cons (c : Char) (rest : List Char) :
    hasSpaceAfterBreak (c :: rest) =
      (isBreak c && rest.head? = some ' ' || hasSpaceAfterBreak rest) := by
  cases rest <;> simp [hasSpaceAfterBreak, adjacent]

theorem needsEscapes_cons {c : Char} {rest : List Char} (h : needsEscapes (c :: rest) = false) :
    isPrintable c = true ∧ (c = ' ' → rest.head?.any isBreak = false) ∧
      needsEscapes rest = false := by
  simp only [needsEscapes, List.any_cons, hasSpaceBeforeBreak_cons, Bool.or_eq_false_iff,
    Bool.not_eq_false', Bool.and_eq_false_iff, decide_eq_false_iff_not] at h ⊢
  obtain ⟨⟨printable, others⟩, here, later⟩ := h
  exact ⟨printable, fun hc => here.resolve_left fun other => other hc, others, later⟩

namespace Gap

/-- No part of the gap is dropped: its first break is not one that becomes a space. -/
def Hard : Gap → Prop
  | none | blanks _ => True
  | breaks first _ => ∃ c, first = some c ∧ c ≠ '\n'

/-- What comes after the gap keeps it: no break after blanks, and no blank after a break. -/
def KeptBy (s : List Char) : Gap → Prop
  | none => True
  | blanks _ => s.head?.any isBreak = false
  | breaks .. => s.head? ≠ some ' '

theorem text_breaks {c : Char} (h : c ≠ '\n') (reversed : List Char) :
    (breaks (some c) reversed).text = c :: reversed.reverse := by
  unfold text
  split
  next heq => cases heq
  next heq => cases heq
  next heq => cases heq; exact absurd rfl h
  next heq => cases heq; exact absurd rfl h
  next heq => cases heq; rfl

theorem text_addBreak {gap : Gap} {c : Char} {rest : List Char} (hard : gap.Hard)
    (kept : gap.KeptBy (c :: rest)) (isBreak_c : isBreak c = true) (h : c ≠ '\n') :
    (gap.addBreak c).text = gap.text ++ [c] := by
  cases gap with
  | none => exact text_breaks h []
  | blanks reversed => simp [KeptBy, isBreak_c] at kept
  | breaks first reversed =>
    obtain ⟨d, rfl, hd⟩ := hard
    simp [addBreak, text_breaks hd]

theorem text_addBlank {gap : Gap} {c : Char} (h : gap.hasBreak = false) :
    (gap.addBlank c).text = gap.text ++ [c] := by
  cases gap with
  | none => rfl
  | blanks reversed => simp [addBlank, text]
  | breaks => cases h

theorem hasBreak_addBreak (gap : Gap) (c : Char) : (gap.addBreak c).hasBreak = true := by
  cases gap <;> rfl

theorem hasBreak_addBlank (gap : Gap) (c : Char) : (gap.addBlank c).hasBreak = gap.hasBreak := by
  cases gap <;> rfl

/-- Blanks behind a break are not kept. -/
theorem addBlank_of_hasBreak {gap : Gap} (h : gap.hasBreak = true) (c : Char) :
    gap.addBlank c = gap := by
  cases gap with
  | none | blanks => cases h
  | breaks => rfl

theorem hard_addBreak {gap : Gap} {c : Char} (hard : gap.Hard) (h : c ≠ '\n') :
    (gap.addBreak c).Hard := by
  cases gap with
  | none => exact ⟨c, rfl, h⟩
  | blanks => exact ⟨c, rfl, h⟩
  | breaks => exact hard

theorem keptBy_addBreak {gap : Gap} {c : Char} {s : List Char} (hc : isBreak c = true)
    (spaced : (isBreak c && s.head? = some ' ') = false) : (gap.addBreak c).KeptBy s := by
  have after : s.head? ≠ some ' ' := by simpa [hc] using spaced
  cases gap <;> exact after

theorem hasBreak_of_keptBy {gap : Gap} {rest : List Char} (kept : gap.KeptBy (' ' :: rest)) :
    gap.hasBreak = false := by
  cases gap with
  | none | blanks => rfl
  | breaks => exact absurd rfl kept

theorem addBlank_kept {gap : Gap} {s : List Char} (h : gap.hasBreak = false)
    (before : s.head?.any isBreak = false) :
    (gap.addBlank ' ').Hard ∧ (gap.addBlank ' ').KeptBy s := by
  cases gap with
  | none | blanks => exact ⟨trivial, before⟩
  | breaks => cases h

end Gap

theorem isBreak_of_mem_spaces {n : Nat} : (spaces n).any isBreak = false := by
  simp [spaces, isBreak_space]

section
variable {gap : Gap} {p : Position} {c : Char} {rest : List Char}

theorem readSingle_blank (h : isBlank c = true) :
    readSingle gap p (c :: rest) = readSingle (gap.addBlank c) p.next rest := by
  rw [readSingle.eq_def]
  simp [h, isBreak_of_isBlank h]

theorem readSingle_end (inLine : 0 < p.column) (h : rest.head? ≠ some '\'') :
    readSingle gap p ('\'' :: rest) = some { text := gap.text, rest, position := p.next } := by
  have column : p.column ≠ 0 := by omega
  rw [readSingle.eq_def]
  simp only [show isBreak '\'' = false by decide, show isBlank '\'' = false by decide, column,
    decide_false, Bool.false_and, Bool.false_eq_true, ↓reduceIte]
  split
  · simp at h
  · rfl

theorem readSingle_quote (inLine : 0 < p.column) :
    readSingle gap p ('\'' :: '\'' :: rest) =
      (readSingle .none (p.skip 2) rest).map (·.behind (gap.text ++ ['\''])) := by
  have column : p.column ≠ 0 := by omega
  rw [readSingle.eq_def]
  simp only [show isBreak '\'' = false by decide, show isBlank '\'' = false by decide, column,
    decide_false, Bool.false_and, Bool.false_eq_true, ↓reduceIte]

theorem readSingle_other (inLine : 0 < p.column) (h : isBreak c = false) (h' : isBlank c = false)
    (hq : c ≠ '\'') :
    readSingle gap p (c :: rest) =
      (readSingle .none p.next rest).map (·.behind (gap.text ++ [c])) := by
  have column : p.column ≠ 0 := by omega
  rw [readSingle.eq_def]
  simp [h, h', hq, column]

/-- Blanks after a break are passed. -/
theorem readSingle_spaces (h : gap.hasBreak = true) (n : Nat) (k : List Char) :
    readSingle gap p (spaces n ++ k) = readSingle gap (p.after (spaces n)) k := by
  induction n generalizing p with
  | zero => rfl
  | succ n ih =>
    change readSingle gap p (' ' :: (spaces n ++ k)) = _
    rw [readSingle_blank (by decide), Gap.addBlank_of_hasBreak h, ih]
    rfl

end

theorem column_after_spaces (n : Nat) (p : Position) :
    (p.after (spaces n)).column = p.column + n := by
  rw [Position.after_eq_skip isBreak_of_mem_spaces]
  simp [Position.skip, spaces]

/-- The indentation in front of a text after a gap. -/
def lead (indent : Nat) (gap : Gap) : List Char := if gap.hasBreak then spaces indent else []

theorem readSingle_lead {indent : Nat} (deep : 0 < indent) {gap : Gap} {p : Position}
    (inLine : gap.hasBreak = false → 0 < p.column) (k : List Char) :
    readSingle gap p (lead indent gap ++ k) = readSingle gap (p.after (lead indent gap)) k ∧
      0 < (p.after (lead indent gap)).column := by
  unfold lead
  cases h : gap.hasBreak with
  | true =>
    refine ⟨readSingle_spaces h indent k, ?_⟩
    rw [if_pos rfl, column_after_spaces]
    omega
  | false => exact ⟨rfl, inLine h⟩

/-- A character as it is written between single quotes. -/
def singleUnit (c : Char) : List Char := if c = '\'' then ['\'', '\''] else [c]

theorem readSingle_singleUnit {gap : Gap} {p : Position} {c : Char} (inLine : 0 < p.column)
    (h : isBreak c = false) (blank : isBlank c = false) (k : List Char) :
    readSingle gap p (singleUnit c ++ k) =
      (readSingle .none (p.after (singleUnit c)) k).map (·.behind (gap.text ++ [c])) := by
  unfold singleUnit
  by_cases quote : c = '\''
  · subst quote
    exact readSingle_quote inLine
  · rw [if_neg quote, Position.after_other h]
    exact readSingle_other inLine h blank quote

theorem column_after_singleUnit {c : Char} (p : Position) (h : isBreak c = false) :
    0 < (p.after (singleUnit c)).column := by
  unfold singleUnit
  split
  · exact Nat.succ_pos _
  · rw [Position.after_other h]
    exact Nat.succ_pos _

theorem singleBody_cons {indent : Nat} {gap : Gap} {c : Char} (h : isBreak c = false)
    (s : List Char) : singleBody indent gap.hasBreak (c :: s) =
      lead indent gap ++ (singleUnit c ++ singleBody indent false s) := by
  simp [singleBody, h, lead, singleUnit]

theorem singleBody_break {indent : Nat} {gap : Gap} {c : Char} (h : isBreak c = true)
    (s : List Char) : singleBody indent gap.hasBreak (c :: s) =
      c :: singleBody indent (gap.addBreak c).hasBreak s := by
  rw [Gap.hasBreak_addBreak]
  simp [singleBody, h]

/-- What stands between single quotes reads back as what was put there. -/
theorem readSingle_singleBody {indent : Nat} (deep : 0 < indent) {s rest : List Char} {g : Gap}
    {p : Position} (hard : g.Hard) (kept : g.KeptBy s) (noLine : '\n' ∉ s)
    (escapes : needsEscapes s = false) (spaced : hasSpaceAfterBreak s = false)
    (inLine : g.hasBreak = false → 0 < p.column) (stop : rest.head? ≠ some '\'') :
    readSingle g p (singleBody indent g.hasBreak s ++ '\'' :: rest) =
      some { text := g.text ++ s, rest
             position := (p.after (singleBody indent g.hasBreak s)).next } := by
  induction s generalizing g p with
  | nil =>
    obtain ⟨read, column⟩ := readSingle_lead deep inLine ('\'' :: rest)
    change readSingle g p (lead indent g ++ _) = _
    rw [read, readSingle_end column stop, List.append_nil]
    rfl
  | cons c s ih =>
    obtain ⟨printable, blankEnd, later⟩ := needsEscapes_cons escapes
    rw [hasSpaceAfterBreak_cons, Bool.or_eq_false_iff] at spaced
    obtain ⟨differs, noLater⟩ := List.ne_and_not_mem_of_not_mem_cons noLine
    have notLine := differs.symm
    cases hb : isBreak c with
    | true =>
      have start : (g.addBreak c).hasBreak = false → 0 < p.nextLine.column := by
        rw [Gap.hasBreak_addBreak]
        nofun
      rw [singleBody_break hb, List.cons_append, readSingle_break hb,
        ih (Gap.hard_addBreak hard notLine) (Gap.keptBy_addBreak hb spaced.1) noLater later
          spaced.2 start,
        Gap.text_addBreak hard kept hb notLine, List.append_assoc, Position.after_break hb]
      rfl
    | false =>
      rw [singleBody_cons hb, Position.after_append, Position.after_append, List.append_assoc,
        List.append_assoc]
      obtain ⟨read, column⟩ := readSingle_lead deep inLine
        (singleUnit c ++ (singleBody indent false s ++ '\'' :: rest))
      rw [read]
      by_cases blank : c = ' '
      · subst blank
        have noBreak := Gap.hasBreak_of_keptBy kept
        obtain ⟨hard', kept'⟩ := Gap.addBlank_kept noBreak (blankEnd rfl)
        have rest' := ih hard' kept' noLater later spaced.2
          (p := (p.after (lead indent g)).next) fun _ => Nat.succ_pos _
        rw [Gap.hasBreak_addBlank, noBreak, Gap.text_addBlank noBreak] at rest'
        change readSingle g _ (' ' :: (singleBody indent false s ++ _)) = _
        rw [readSingle_blank (by decide), rest', List.append_assoc]
        rfl
      · have notBlank : isBlank c = false := by
          rw [isBlank_of_isPrintable printable, decide_eq_false blank]
        have rest' := ih (g := .none) (p := (p.after (lead indent g)).after (singleUnit c))
          trivial trivial noLater later spaced.2 fun _ => column_after_singleUnit _ hb
        rw [readSingle_singleUnit column hb notBlank]
        change Option.map _ (readSingle _ _ (singleBody indent Gap.none.hasBreak s ++ _)) = _
        rw [rest']
        simp [Taken.behind, Gap.text, Gap.hasBreak]

end ClusterLifecycle.Yaml
