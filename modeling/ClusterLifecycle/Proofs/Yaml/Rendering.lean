import ClusterLifecycle.Proofs.Yaml.Lexing

/-!
The text of a value holds printable characters only, so all of it is allowed and nothing in it is
taken for another line end; and it gives the tokens of the value.
-/

namespace ClusterLifecycle.Yaml

open Text Lexer Value

/-- Every character may be written as it is. -/
def Written (s : List Char) : Prop := ∀ c ∈ s, isPrintable c = true

namespace Written

variable {s t : List Char}

theorem nil : Written [] := nofun

theorem cons {c : Char} (h : isPrintable c = true) (later : Written s) : Written (c :: s) :=
  List.forall_mem_cons.2 ⟨h, later⟩

theorem append (h : Written s) (h' : Written t) : Written (s ++ t) :=
  List.forall_mem_append.2 ⟨h, h'⟩

theorem of_needsEscapes (h : needsEscapes s = false) : Written s := by
  simp only [needsEscapes, Bool.or_eq_false_iff, List.any_eq_false, Bool.not_eq_true',
    Bool.not_eq_false] at h
  exact h.1

theorem of_isWord (h : IsWord s) : Written s := of_needsEscapes h.facts.2.1

theorem spaces (n : Nat) : Written (spaces n) := by
  intro c h
  rw [List.eq_of_mem_replicate h]
  decide

theorem ite {p : Prop} [Decidable p] (h : Written s) (h' : Written t) :
    Written (if p then s else t) := by
  split
  · exact h
  · exact h'

theorem singleBody {indent : Nat} {atBreak : Bool} (h : Written s) :
    Written (singleBody indent atBreak s) := by
  induction s generalizing atBreak with
  | nil => exact ite (spaces indent) nil
  | cons c s ih =>
    obtain ⟨here, later⟩ := List.forall_mem_cons.1 h
    rw [Yaml.singleBody]
    split
    · exact cons here (ih later)
    · refine append (append (ite (spaces indent) nil) (ite ?_ ?_)) (ih later)
      · exact cons (by decide) (cons (by decide) nil)
      · exact cons here nil

theorem blockBody {indent : Nat} {atStart : Bool} (h : Written s) :
    Written (blockBody indent atStart s) := by
  induction s generalizing atStart with
  | nil => exact ite nil (cons (by decide) nil)
  | cons c s ih =>
    obtain ⟨here, later⟩ := List.forall_mem_cons.1 h
    rw [Yaml.blockBody]
    split
    · exact cons here (ih later)
    · exact append (ite (spaces indent) nil) (cons here (ih later))

theorem upperHex (width n : Nat) : Written (upperHex width n) := by
  have digit : ∀ m < 16, isPrintable (upperHexDigit m) = true := by decide
  induction width generalizing n with
  | zero => exact nil
  | succ width ih => exact append (ih _) (cons (digit _ (Nat.mod_lt n (by decide))) nil)

theorem escaped (c : Char) : Written (escaped c) := by
  apply cons (by decide)
  split
  next letter named =>
    refine cons (of_lookup (p := fun _ letter => isPrintable letter = true) ?_ named) nil
    decide
  next =>
    split
    · exact cons (by decide) (upperHex 2 _)
    · split
      · exact cons (by decide) (upperHex 4 _)
      · exact cons (by decide) (upperHex 8 _)

theorem doubleBody (s : List Char) : Written (doubleBody s) := by
  induction s with
  | nil => exact nil
  | cons c s ih =>
    rw [doubleBody_cons]
    refine append ?_ ih
    unfold doubleUnit
    split
    next => exact escaped c
    next plain =>
      simp only [Bool.or_eq_true, not_or, Bool.not_eq_true', Bool.not_eq_false] at plain
      exact cons plain.1.1.1 nil

theorem chomping (s : List Char) : Written (chomping s) := by
  unfold Yaml.chomping
  split
  · exact cons (by decide) nil
  · split
    · exact cons (by decide) nil
    · split
      · exact cons (by decide) nil
      · exact ite (cons (by decide) nil) nil

theorem scalarLines (indent : Nat) (s : List Char) : Written (scalarLines indent s) := by
  unfold Yaml.scalarLines
  cases style : styleOf s with
  | plain => exact append (of_isWord (isWord_of_plain style)) (cons (by decide) nil)
  | single =>
    obtain ⟨escapes, _⟩ : needsEscapes s = false ∧ hasSpaceAfterBreak s = false := by
      simpa [singleAllowed] using (singleAllowed_of_single style).2
    apply append (cons (by decide) (singleBody (of_needsEscapes escapes)))
    exact cons (by decide) (cons (by decide) nil)
  | double =>
    exact append (cons (by decide) (doubleBody s)) (cons (by decide) (cons (by decide) nil))
  | block =>
    obtain ⟨escapes, _⟩ : needsEscapes s = false ∧ s.getLast? ≠ some ' ' := by
      simpa [blockAllowed] using (blockAllowed_of_block style).2
    refine append (append (cons (by decide) (ite ?_ nil)) (chomping s))
      (cons (by decide) (blockBody (of_needsEscapes escapes)))
    exact cons (by decide) nil

theorem keyText (indent : Nat) (key : List Char) : Written (keyText indent key) := by
  unfold Yaml.keyText
  refine ite (append ?_ (cons (by decide) nil)) ?_
  · exact fun c h => scalarLines (indent + 2) key c (List.dropLast_subset _ h)
  · exact append (append (cons (by decide) (cons (by decide) (scalarLines _ _))) (spaces indent))
      (cons (by decide) nil)

end Written

mutual

theorem written_afterColon (indent : Nat) (v : Value) (sound : v.Sound) :
    Written (afterColon indent v) := by
  match v, sound with
  | .text s, _ => exact .cons (by decide) (.scalarLines _ _)
  | .word s, isWord =>
    exact .append (.cons (by decide) (.of_isWord isWord)) (.cons (by decide) .nil)
  | .sequence [], _ | .mapping [], _ =>
    exact .cons (by decide) (.cons (by decide) (.cons (by decide) (.cons (by decide) .nil)))
  | .sequence (x :: xs), sound =>
    exact .append (.cons (by decide) (.spaces _)) (written_itemLines indent (x :: xs) sound)
  | .mapping (f :: fs), sound =>
    exact .append (.cons (by decide) (.spaces _)) (written_fieldLines _ (f :: fs) sound)

theorem written_afterDash (indent : Nat) (v : Value) (sound : v.Sound) :
    Written (afterDash indent v) := by
  match v, sound with
  | .text s, _ => exact .cons (by decide) (.scalarLines _ _)
  | .word s, isWord =>
    exact .append (.cons (by decide) (.of_isWord isWord)) (.cons (by decide) .nil)
  | .sequence [], _ | .mapping [], _ =>
    exact .cons (by decide) (.cons (by decide) (.cons (by decide) (.cons (by decide) .nil)))
  | .sequence (x :: xs), sound =>
    exact .cons (by decide) (written_itemLines _ (x :: xs) sound)
  | .mapping (f :: fs), sound =>
    exact .cons (by decide) (written_fieldLines _ (f :: fs) sound)

theorem written_itemLines (indent : Nat) (items : List Value) (sound : ItemsSound items) :
    Written (itemLines indent items) := by
  match items, sound with
  | [], _ => exact .nil
  | x :: xs, sound =>
    exact .append (.append (.cons (by decide) (written_afterDash indent x sound.1))
      (.ite .nil (.spaces _))) (written_itemLines indent xs sound.2)

theorem written_fieldLines (indent : Nat) (fields : List (String × Value))
    (sound : FieldsSound fields) : Written (fieldLines indent fields) := by
  match fields, sound with
  | [], _ => exact .nil
  | (key, value) :: rest, sound =>
    exact .append (.append (.append (.keyText _ _) (written_afterColon indent value sound.1))
      (.ite .nil (.spaces _))) (written_fieldLines indent rest sound.2)

end

theorem isAllowed_of_isPrintable {c : Char} (h : isPrintable c = true) : isAllowed c = true := by
  simp only [isPrintable, isAllowed, Bool.or_eq_true, Bool.and_eq_true, decide_eq_true_eq] at h ⊢
  omega

/-- Line ends are uniform already where none has another form. -/
theorem uniformBreaks_eq_self {s : List Char} (uniform : ∀ c ∈ s, c ≠ '\r' ∧ c ≠ '\u0085') :
    uniformBreaks s = s := by
  induction s with
  | nil => rfl
  | cons c s ih =>
    obtain ⟨⟨cr, nel⟩, later⟩ := List.forall_mem_cons.1 uniform
    rw [uniformBreaks]
    · simp [cr, nel, ih later]
    · intro rest is
      exact absurd is cr

theorem uniformBreaks_eq {s : List Char} (h : Written s) : uniformBreaks s = s := by
  refine uniformBreaks_eq_self fun c hc => ⟨?_, ?_⟩
  all_goals
    rintro rfl
    exact absurd (h _ hc) (by decide)

theorem start_eq {s : List Char} (h : ∀ c, s.head? = some c → isPrintable c = true) :
    start s = { rest := s } := by
  unfold start
  split
  next => exact absurd (h _ rfl) (by decide)
  next => rfl

/-- At the end of the text the root mapping is closed. -/
theorem run_end {fuel : Nat} {q : Position} {tokens : List Token} (column : q.column = 0)
    (enough : 0 < fuel) :
    run fuel (inBlock true none q ⟨0, [-1], tokens⟩ []) =
      some (.blockEnd :: tokens).reverse := by
  cases fuel with
  | zero => exact absurd enough (Nat.lt_irrefl 0)
  | succ fuel =>
    rw [run, advance_inBlock (k := none) rfl (by simp [column]) fresh_none]
    rfl

/-- A written mapping gives its tokens. -/
theorem tokens?_fieldLines (f : String × Value) (fs : List (String × Value))
    (sound : FieldsSound (f :: fs)) :
    tokens? (fieldLines 0 (f :: fs)) = some ((mapping (f :: fs)).tokens true) := by
  have written := written_fieldLines 0 (f :: fs) sound
  have allowed : (fieldLines 0 (f :: fs)).all isAllowed = true :=
    List.all_eq_true.2 fun c h => isAllowed_of_isPrintable (written c h)
  rw [tokens?, if_pos allowed]
  dsimp only
  rw [uniformBreaks_eq written, start_eq fun c hc => written c (List.mem_of_head? hc)]
  obtain ⟨key, v⟩ := f
  obtain ⟨q, column, reads⟩ := ReadsLines.of_field key (p := {}) (d := {}) (n := 0)
    (m := 0) (k := []) rfl (endsWord_behindColon 0 v fs _) (by decide) fun _ q far =>
      reads_fields v fs sound.1 sound.2 (Settled.indent_enter (by decide)) far (Nat.le_refl 0) rfl
  rw [← fieldLines_cons, Settled.enter_new (by decide)] at reads
  have text : fieldLines 0 ((key, v) :: fs) ++ (spaces 0 ++ []) =
      fieldLines 0 ((key, v) :: fs) := by
    simp [spaces]
  rw [text] at reads
  obtain ⟨fuel, enough, run⟩ := reads.run_eq
    (Nat.lt_succ_of_le (ahead_le (inBlock true none {} {} (fieldLines 0 ((key, v) :: fs)))))
  refine run.trans ((run_end column (Nat.lt_of_le_of_lt (Nat.zero_le _) enough)).trans ?_)
  simp [Value.tokens, fieldTokens]

end ClusterLifecycle.Yaml
