import ClusterLifecycle.Proofs.Digits
import ClusterLifecycle.Proofs.Yaml.Parsing
import ClusterLifecycle.Yaml.Reading

/-!
Typed values read out of the trees of written values.
-/

namespace ClusterLifecycle.Yaml

open Text Value

namespace Document

variable {d : Document} {α : Type}

theorem text?_text (s : String) : d.text? (text s).node = some s := rfl

/-- A text is never taken for one that is not there. -/
theorem isPresent?_text (s : String) : d.isPresent? (text s).node = some true := by
  rw [Value.node, textNode]
  cases style : styleOf s.toList with
  | plain =>
    have clear := (plain_facts style).1
    simp only [isAmbiguous, Bool.or_eq_false_iff] at clear
    obtain ⟨⟨⟨⟨⟨empty, null⟩, _⟩, _⟩, _⟩, _⟩ := clear
    have some_ : s.isEmpty = false := by
      apply Bool.eq_false_iff.2
      intro none_
      rw [String.isEmpty_iff.1 none_] at empty
      cases empty
    change some (!(s.isEmpty || isNull s.toList)) = _
    rw [some_, null]
    rfl
  | single | double | block => rfl

theorem isPresent?_mapping (fields : List (String × Value)) :
    d.isPresent? (mapping fields).node = some true := by
  rw [Value.node]
  rfl

theorem optional?_present {read : Node → Option α} {n : Node}
    (h : d.isPresent? n = some true) : d.optional? read n = (read n).map some := by
  simp [optional?, h]

theorem choice?_text (ofString? : String → Option α) (s : String) :
    d.choice? ofString? (text s).node = ofString? s := by
  rw [Value.node, textNode]
  rfl

theorem items?_sequence (items : List Value) :
    d.items? (sequence items).node = some (items.map node) := by
  rw [Value.node, itemNodes_eq_map]
  rfl

/-- Fields by their names, each with its tree. -/
def named (fields : List (String × Value)) : List (String × Node) :=
  fields.map fun f => (f.1, f.2.node)

theorem fields?_mapping (fields : List (String × Value)) :
    d.fields? (mapping fields).node = some (named fields) := by
  rw [Value.node, fieldNodes_eq_map]
  change (List.map _ fields).mapM _ = _
  induction fields with
  | nil => rfl
  | cons f rest ih =>
    have key : d.text? (textNode f.1) = some f.1 := rfl
    simp only [named] at ih
    simp [named, key, ih]

/-- The fields of a record whose names are known ones, each at most once. -/
theorem record?_mapping {known : List String} {fields : List (String × Value)}
    (names : (fields.map Prod.fst).Sublist known) (distinct : known.Nodup) :
    d.record? known (mapping fields).node = some (named fields) := by
  have once : known.all (fun name => (named fields).countP (·.1 = name) ≤ 1) = true := by
    refine List.all_eq_true.2 fun name _ => decide_eq_true ?_
    have count := List.nodup_iff_count.1 (distinct.sublist names) name
    rw [List.count, List.countP_map] at count
    rw [named, List.countP_map]
    exact count
  rw [record?, fields?_mapping]
  exact Option.filter_eq_some_iff.2 ⟨rfl, once⟩

theorem lookup_fields (fields : List (String × Value)) (name : String) :
    (named fields).lookup name = (fields.lookup name).map node := by
  unfold named
  induction fields with
  | nil => rfl
  | cons f rest ih =>
    rw [List.map_cons, List.lookup_cons, List.lookup_cons, ih]
    cases name == f.1 <;> rfl

theorem required_fields (fields : List (String × Value)) (name : String)
    (read : Node → Option α) :
    required (named fields) name read =
      (fields.lookup name).bind fun v => read v.node := by
  rw [required, lookup_fields]
  cases fields.lookup name <;> rfl

theorem defaulted_fields (fields : List (String × Value)) (name : String) (fallback : α)
    (read : Node → Option α) :
    defaulted (named fields) name fallback read =
      ((fields.lookup name).map fun v => read v.node).getD (some fallback) := by
  rw [defaulted, lookup_fields]
  cases fields.lookup name <;> rfl

end Document

/-- What a digit is not. -/
theorem digit_facts {c : Char} (h : isDecimalDigit c = true) :
    isPrintable c = true ∧ isBlank c = false ∧ isSpaceOrBreak c = false ∧ c ≠ ':' ∧
      opensOtherwise c = false :=
  of_digit (p := fun c => isPrintable c = true ∧ isBlank c = false ∧ isSpaceOrBreak c = false ∧
    c ≠ ':' ∧ opensOtherwise c = false) (by decide) h

theorem digits_inner {s : List Char} (digits : ∀ c ∈ s, isDecimalDigit c = true) :
    hasInnerIndicator s = false ∧ needsEscapes s = false ∧ s.any isBreak = false := by
  induction s with
  | nil => exact ⟨rfl, rfl, rfl⟩
  | cons c s ih =>
    obtain ⟨here, later⟩ := List.forall_mem_cons.1 digits
    obtain ⟨printable, blank, outside, colon, _⟩ := digit_facts here
    obtain ⟨inner, escapes, oneLine⟩ := ih later
    simp only [isSpaceOrBreak, Bool.or_eq_false_iff, decide_eq_false_iff_not] at outside
    obtain ⟨space, noBreak⟩ := outside
    simp only [needsEscapes, Bool.or_eq_false_iff] at escapes
    simp [hasInnerIndicator, needsEscapes, hasSpaceBeforeBreak_cons, printable, blank, space,
      noBreak, colon, inner, escapes, oneLine]

/-- Digits are a word, whatever number they are. -/
theorem isWord_digits {s : List Char} (some_ : s ≠ [])
    (digits : ∀ c ∈ s, isDecimalDigit c = true) : IsWord s := by
  refine ⟨some_, ?_⟩
  have outside (c : Char) (h : c ∈ s) : isSpaceOrBreak c = false := (digit_facts (digits c h)).2.2.1
  obtain ⟨inner, escapes, oneLine⟩ := digits_inner digits
  have first : s.head?.any isSpaceOrBreak = false := by
    cases h : s.head? with
    | none => rfl
    | some c => exact outside c (List.mem_of_head? h)
  have last : s.getLast?.any isSpaceOrBreak = false := by
    cases h : s.getLast? with
    | none => rfl
    | some c => exact outside c (List.mem_of_getLast? h)
  have indicator : hasIndicator s = false := by
    cases s with
    | nil => contradiction
    | cons c s =>
      have here := digits c List.mem_cons_self
      have mark := of_digit (p := fun c => c ≠ '?' ∧ c ≠ '-' ∧ c ≠ '.') (by decide) here
      simp [hasIndicator, inner, (digit_facts here).2.2.2.2, mark, List.isPrefixOf,
        Ne.symm mark.2.1, Ne.symm mark.2.2]
  simp [plainAllowed, indicator, escapes, oneLine, first, last]

theorem radixNumber?_digits {s : List Char} (digits : ∀ c ∈ s, isDecimalDigit c = true) :
    radixNumber? s = none := by
  unfold radixNumber?
  split
  · exact absurd (digits 'x' (by simp)) (by decide)
  · exact absurd (digits 'o' (by simp)) (by decide)
  · exact absurd (digits 'b' (by simp)) (by decide)
  · rfl

theorem withoutPlus_digits {s : List Char} (digits : ∀ c ∈ s, isDecimalDigit c = true) :
    withoutPlus s = s := by
  unfold withoutPlus
  split
  · exact absurd (digits '+' (by simp)) (by decide)
  · rfl

theorem hasLeadingZero_decimal (n : Nat) : hasLeadingZero (decimal n) = false := by
  have digits := isDecimalDigit_decimal n
  by_cases zero : n = 0
  · subst zero
    decide
  · have head := head?_decimal (Nat.pos_of_ne_zero zero)
    cases word : decimal n with
    | nil => rfl
    | cons c rest =>
      rw [word] at digits head
      have sign := of_digit (p := fun c => c ≠ '+' ∧ c ≠ '-') (by decide)
        (digits c List.mem_cons_self)
      have nonzero : c ≠ '0' := by simpa using head
      simp [hasLeadingZero, sign, nonzero]

theorem natural?_decimal {bound n : Nat} (h : n < bound) :
    natural? bound (decimal n) = some n := by
  have digits := isDecimalDigit_decimal n
  simp only [natural?, withoutPlus_digits digits, radixNumber?_digits digits, Option.filter_none,
    hasLeadingZero_decimal, number?_decimal, Bool.false_eq_true, ↓reduceIte]
  exact Option.filter_eq_some_iff.2 ⟨rfl, decide_eq_true h⟩

theorem toList_toString (n : Nat) : (toString n).toList = decimal n := by
  change (String.ofList (Nat.toDigits 10 n)).toList = _
  rw [String.toList_ofList]
  rfl

end ClusterLifecycle.Yaml
