import ClusterLifecycle.Text.Digits

/-!
Numbers read back from the digits they are written in, and texts split at a mark.

* `numberFrom?_digit`: one more digit;
* `number?_upperHex`, `number?_padded`, `number?_decimal`: each writer is undone;
* `splitAtFirst_append`, `splitAtFirst_of_free`: a text is split at its first mark, if it has one;
* `eq_append_of_dropStart?`: what is dropped and what is left are the text.
-/

namespace ClusterLifecycle.Text

theorem digitValue?_hexDigit {base n : Nat} (h : n < base) (small : base ≤ 16) :
    digitValue? base (hexDigit n) = some n := by
  have all : ∀ m < 16, digitValue? 16 (hexDigit m) = some m := by decide
  have value := all n (by omega)
  unfold digitValue? at value ⊢
  obtain ⟨found, _⟩ := Option.filter_eq_some_iff.1 value
  exact Option.filter_eq_some_iff.2 ⟨found, decide_eq_true h⟩

theorem digitValue?_upperHexDigit {n : Nat} (h : n < 16) :
    digitValue? 16 (upperHexDigit n) = some n := by
  have all : ∀ m < 16, digitValue? 16 (upperHexDigit m) = some m := by decide
  exact all n h

theorem digitChar_eq_hexDigit {n : Nat} (h : n < 10) : n.digitChar = hexDigit n := by
  have all : ∀ m < 10, m.digitChar = hexDigit m := by decide
  exact all n h

theorem numberFrom?_append (base n : Nat) (s t : List Char) :
    numberFrom? base n (s ++ t) =
      (numberFrom? base n s).bind fun m => numberFrom? base m t := by
  induction s generalizing n with
  | nil => rfl
  | cons c rest ih =>
    simp only [List.cons_append, numberFrom?, Option.bind_assoc]
    exact congrArg _ (funext fun d => ih _)

/-- One more digit at the end. -/
theorem numberFrom?_digit {base n m d : Nat} {s : List Char} {c : Char}
    (before : numberFrom? base n s = some m) (digit : digitValue? base c = some d) :
    numberFrom? base n (s ++ [c]) = some (m * base + d) := by
  rw [numberFrom?_append, before]
  simp [numberFrom?, digit]

theorem numberFrom?_upperHex (width n : Nat) (h : n < Nat.pow 16 width) :
    numberFrom? 16 0 (upperHex width n) = some n := by
  induction width generalizing n with
  | zero =>
    obtain rfl : n = 0 := Nat.lt_one_iff.1 h
    rfl
  | succ width ih =>
    have smaller : n / 16 < Nat.pow 16 width := by
      have power : Nat.pow 16 (width + 1) = Nat.pow 16 width * 16 := rfl
      omega
    have digit := digitValue?_upperHexDigit (Nat.mod_lt n (by decide : 0 < 16))
    rw [upperHex, numberFrom?_digit (ih _ smaller) digit, Nat.div_add_mod']

theorem numberFrom?_padded (width n : Nat) (h : n < Nat.pow 10 width) :
    numberFrom? 10 0 (padded width n) = some n := by
  induction width generalizing n with
  | zero =>
    obtain rfl : n = 0 := Nat.lt_one_iff.1 h
    rfl
  | succ width ih =>
    have smaller : n / 10 < Nat.pow 10 width := by
      have power : Nat.pow 10 (width + 1) = Nat.pow 10 width * 10 := rfl
      omega
    have digit := digitValue?_hexDigit (Nat.mod_lt n (by decide : 0 < 10)) (by decide)
    rw [padded, numberFrom?_digit (ih _ smaller) digit, Nat.div_add_mod']

theorem numberFrom?_decimal (n : Nat) : numberFrom? 10 0 (decimal n) = some n := by
  induction n using Nat.strongRecOn with
  | ind n ih =>
    unfold decimal at ih ⊢
    rw [Nat.toDigits_eq_if (by decide)]
    split
    next small =>
      have digit := digitValue?_hexDigit small (by decide)
      rw [digitChar_eq_hexDigit small]
      simp [numberFrom?, digit]
    next big =>
      have digit := digitValue?_hexDigit (Nat.mod_lt n (by decide : 0 < 10)) (by decide)
      rw [digitChar_eq_hexDigit (Nat.mod_lt n (by decide)),
        numberFrom?_digit (ih (n / 10) (by omega)) digit, Nat.div_add_mod']

theorem number?_of_ne_nil {base : Nat} {digits : List Char} (h : digits ≠ []) :
    number? base digits = numberFrom? base 0 digits := by
  cases digits with
  | nil => contradiction
  | cons => rfl

theorem length_upperHex (width n : Nat) : (upperHex width n).length = width := by
  induction width generalizing n with
  | zero => rfl
  | succ width ih => simp [upperHex, ih]

theorem length_padded (width n : Nat) : (padded width n).length = width := by
  induction width generalizing n with
  | zero => rfl
  | succ width ih => simp [padded, ih]

theorem number?_upperHex {width n : Nat} (some_ : 0 < width) (h : n < Nat.pow 16 width) :
    number? 16 (upperHex width n) = some n := by
  have ne : upperHex width n ≠ [] := by
    rw [← List.length_pos_iff, length_upperHex]
    exact some_
  rw [number?_of_ne_nil ne, numberFrom?_upperHex width n h]

theorem number?_padded {width n : Nat} (some_ : 0 < width) (h : n < Nat.pow 10 width) :
    number? 10 (padded width n) = some n := by
  have ne : padded width n ≠ [] := by
    rw [← List.length_pos_iff, length_padded]
    exact some_
  rw [number?_of_ne_nil ne, numberFrom?_padded width n h]

theorem number?_decimal (n : Nat) : number? 10 (decimal n) = some n := by
  exact (number?_of_ne_nil Nat.toDigits_ne_nil).trans (numberFrom?_decimal n)

theorem isDecimalDigit_hexDigit {n : Nat} (h : n < 10) : isDecimalDigit (hexDigit n) = true := by
  have all : ∀ m < 10, isDecimalDigit (hexDigit m) = true := by decide
  exact all n h

theorem isDecimalDigit_padded (width n : Nat) : ∀ c ∈ padded width n, isDecimalDigit c = true := by
  induction width generalizing n with
  | zero => nofun
  | succ width ih =>
    intro c h
    obtain h | h := List.mem_append.1 h
    · exact ih _ c h
    · rw [List.mem_singleton.1 h]
      exact isDecimalDigit_hexDigit (Nat.mod_lt n (by decide))

theorem isDecimalDigit_decimal (n : Nat) : ∀ c ∈ decimal n, isDecimalDigit c = true := by
  induction n using Nat.strongRecOn with
  | ind n ih =>
    unfold decimal at ih ⊢
    rw [Nat.toDigits_eq_if (by decide)]
    split
    next small =>
      intro c h
      rw [List.mem_singleton.1 h, digitChar_eq_hexDigit small]
      exact isDecimalDigit_hexDigit small
    next big =>
      intro c h
      obtain h | h := List.mem_append.1 h
      · exact ih (n / 10) (by omega) c h
      · have digit : n % 10 < 10 := Nat.mod_lt n (by decide)
        rw [List.mem_singleton.1 h, digitChar_eq_hexDigit digit]
        exact isDecimalDigit_hexDigit digit

/-- No number but zero begins with a zero. -/
theorem head?_decimal {n : Nat} (h : 0 < n) : (decimal n).head? ≠ some '0' := by
  induction n using Nat.strongRecOn with
  | ind n ih =>
    unfold decimal at ih ⊢
    rw [Nat.toDigits_eq_if (by decide)]
    split
    next small =>
      have nonzero : ∀ m < 10, 0 < m → hexDigit m ≠ '0' := by decide
      rw [digitChar_eq_hexDigit small]
      intro zero
      exact nonzero n small h (Option.some.inj zero)
    next big =>
      have smaller := ih (n / 10) (by omega) (by omega)
      have some_ : Nat.toDigits 10 (n / 10) ≠ [] := Nat.toDigits_ne_nil
      cases digits : Nat.toDigits 10 (n / 10) with
      | nil => exact absurd digits some_
      | cons c rest =>
        rw [digits] at smaller
        exact smaller

theorem eq_hexDigit {c : Char} (h : isDecimalDigit c = true) : ∃ n < 10, c = hexDigit n := by
  simp only [isDecimalDigit, Bool.and_eq_true, decide_eq_true_eq, Char.le_def,
    UInt32.le_iff_toNat_le] at h
  have bounds : 48 ≤ c.toNat ∧ c.toNat ≤ 57 := h
  refine ⟨c.toNat - 48, by omega, ?_⟩
  have small : c.toNat - 48 < 10 := by omega
  have code : 48 + (c.toNat - 48) = c.toNat := by omega
  rw [hexDigit, if_pos small, code, Char.ofNat_toNat]

/-- What holds of the ten digits holds of every digit. -/
theorem of_digit {p : Char → Prop} (ten : ∀ n < 10, p (hexDigit n)) {c : Char}
    (h : isDecimalDigit c = true) : p c := by
  obtain ⟨n, small, rfl⟩ := eq_hexDigit h
  exact ten n small

/-- What holds of the ASCII characters, one by one, holds of every one. -/
theorem of_ascii {p : Char → Prop} (all : ∀ n < 128, p (Char.ofNat n)) {c : Char}
    (h : c.toNat < 128) : p c := by
  have held := all c.toNat h
  rwa [Char.ofNat_toNat] at held

theorem ascii_of_alphanum {c : Char} (h : c.isAlphanum = true) : c.toNat < 128 := by
  have below {d : Char} (ascii : d.toNat < 128) (le : c.val ≤ d.val) : c.toNat < 128 :=
    Nat.lt_of_le_of_lt (UInt32.le_iff_toNat_le.1 le) ascii
  rcases Bool.or_eq_true_iff.1 h with letter | digit
  · rcases Bool.or_eq_true_iff.1 letter with upper | lower
    · have le : c.val ≤ 'Z'.val := (of_decide_eq_true upper).2
      exact below (by decide) le
    · have le : c.val ≤ 'z'.val := of_decide_eq_true (Bool.and_eq_true_iff.1 lower).2
      exact below (by decide) le
  · have le : c.val ≤ '9'.val := of_decide_eq_true (Bool.and_eq_true_iff.1 digit).2
    exact below (by decide) le

theorem splitAtFirst_append {c : Char} {before : List Char} (free : c ∉ before)
    (after : List Char) : splitAtFirst c (before ++ c :: after) = some (before, after) := by
  induction before with
  | nil => rw [List.nil_append, splitAtFirst, if_pos rfl]
  | cons d before ih =>
    obtain ⟨other, rest⟩ := not_or.1 (mt List.mem_cons.2 free)
    rw [List.cons_append, splitAtFirst, if_neg (Ne.symm other), ih rest]
    rfl

theorem splitAtFirst_of_free {c : Char} {text : List Char} (free : c ∉ text) :
    splitAtFirst c text = none := by
  induction text with
  | nil => rfl
  | cons d text ih =>
    obtain ⟨other, free⟩ := not_or.1 (mt List.mem_cons.2 free)
    rw [splitAtFirst, if_neg (Ne.symm other), ih free]
    rfl

theorem eq_append_of_dropStart? {start text rest : List Char}
    (h : dropStart? start text = some rest) : text = start ++ rest := by
  induction start generalizing text with
  | nil =>
    rw [dropStart?] at h
    exact Option.some.inj h
  | cons c start ih =>
    cases text with
    | nil => cases h
    | cons d text =>
      rw [dropStart?] at h
      split at h
      next same => rw [same, ih h, List.cons_append]
      next => cases h

end ClusterLifecycle.Text
