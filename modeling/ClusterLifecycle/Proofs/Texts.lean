import ClusterLifecycle.Cluster
import ClusterLifecycle.Proofs.Digits

/-!
The texts of the parts of a record: an identity, a status, a role, a driver and a point in time are
each read back from what they are written as.
-/

namespace ClusterLifecycle

open Text

theorem Status.parse_toString (s : Status) : Status.parse s.toString = .ok s := by
  obtain ⟨action, phase⟩ := s
  cases action <;> cases phase <;> rfl

theorem Role.ofString?_toString (r : Role) : Role.ofString? r.toString = some r := by
  cases r <;> rfl

theorem NetworkDriver.ofString?_toString (d : NetworkDriver) :
    NetworkDriver.ofString? d.toString = some d := by
  cases d <;> rfl

namespace Uuid

theorem digit?_hexDigit (d : Fin 16) : digit? (hexDigit d.val) = some d := by
  have value := digitValue?_hexDigit d.isLt (Nat.le_refl 16)
  simp [digit?, value]

theorem ofDigits?_hexDigits (u : Uuid) :
    ofDigits? (u.digits.map fun d => hexDigit d.val) = some u := by
  have digits : (u.digits.map fun d => hexDigit d.val).mapM digit? = some u.digits := by
    induction u.digits with
    | nil => rfl
    | cons d rest ih => simp [digit?_hexDigit, ih]
  simp [ofDigits?, digits, u.digits_length]

theorem ofList?_hyphenated {a b c d e : List Char} (ha : a.length = 8) (hb : b.length = 4)
    (hc : c.length = 4) (hd : d.length = 4) (he : e.length = 12) :
    ofList? (a ++ '-' :: (b ++ '-' :: (c ++ '-' :: (d ++ '-' :: e)))) =
      ofDigits? (a ++ (b ++ (c ++ (d ++ e)))) := by
  match a, b, c, d, e, ha, hb, hc, hd, he with
  | [_, _, _, _, _, _, _, _], [_, _, _, _], [_, _, _, _], [_, _, _, _],
      [_, _, _, _, _, _, _, _, _, _, _, _], _, _, _, _, _ => rfl

theorem ofString?_toString (u : Uuid) : ofString? u.toString = some u := by
  have length := u.digits_length
  have parts (hex : List Char) : hex.take 8 ++ ((hex.drop 8).take 4 ++ ((hex.drop 12).take 4 ++
      ((hex.drop 16).take 4 ++ hex.drop 20))) = hex := by
    have fourth : (hex.drop 16).take 4 ++ hex.drop 20 = hex.drop 16 := by
      rw [← List.drop_drop (i := 4) (j := 16), List.take_append_drop]
    have third : (hex.drop 12).take 4 ++ hex.drop 16 = hex.drop 12 := by
      rw [← List.drop_drop (i := 4) (j := 12), List.take_append_drop]
    have second : (hex.drop 8).take 4 ++ hex.drop 12 = hex.drop 8 := by
      rw [← List.drop_drop (i := 4) (j := 8), List.take_append_drop]
    rw [fourth, third, second, List.take_append_drop]
  rw [ofString?, Uuid.toString, String.toList_ofList, toList]
  simp only [List.append_assoc, List.cons_append]
  rw [ofList?_hyphenated, parts, ofDigits?_hexDigits]
  all_goals simp [length]

theorem toString_injective {u v : Uuid} (same : u.toString = v.toString) : u = v := by
  have read := ofString?_toString u
  rw [same, ofString?_toString] at read
  exact (Option.some.inj read).symm

theorem length_toList (u : Uuid) : u.toList.length = 36 := by
  simp [toList, u.digits_length]

theorem length_toString (u : Uuid) : u.toString.length = 36 := by
  rw [Uuid.toString, String.length_ofList, length_toList]

end Uuid

namespace Timestamp

theorem isWhiteSpace_digit {c : Char} (h : isDecimalDigit c = true) : isWhiteSpace c = false :=
  of_digit (p := fun c => isWhiteSpace c = false) (by decide) h

theorem trimStart_cons {c : Char} (h : isWhiteSpace c = false) (k : List Char) :
    trimStart (c :: k) = c :: k := by
  simp [trimStart, h]

/-- Digits that are all there are. -/
structure Digits (ds : List Char) : Prop where
  some_ : ds ≠ []
  digits : ∀ c ∈ ds, isDecimalDigit c = true

theorem trimStart_digits {ds : List Char} (h : Digits ds) (k : List Char) :
    trimStart (ds ++ k) = ds ++ k := by
  cases ds with
  | nil => exact absurd rfl h.some_
  | cons c rest => exact trimStart_cons (isWhiteSpace_digit (h.digits c List.mem_cons_self)) _

theorem takeWhile_digits {ds k : List Char} (h : Digits ds)
    (stop : k.head?.any isDecimalDigit = false) :
    (ds ++ k).takeWhile isDecimalDigit = ds := by
  have none_ : k.takeWhile isDecimalDigit = [] := by
    cases k with
    | nil => rfl
    | cons c rest =>
      have here : isDecimalDigit c = false := stop
      simp [List.takeWhile, here]
  rw [List.takeWhile_append_of_pos h.digits, none_, List.append_nil]

theorem digits?_append {most n : Nat} {ds k : List Char} (h : Digits ds) (short : ds.length ≤ most)
    (value : number? 10 ds = some n) (stop : k.head?.any isDecimalDigit = false) :
    digits? most (ds ++ k) = some (n, k) := by
  rw [digits?, takeWhile_digits h stop]
  simp [List.take_of_length_le short, value]

theorem digits_padded {width : Nat} (h : 0 < width) (n : Nat) : Digits (padded width n) where
  some_ := by
    rw [← List.length_pos_iff, length_padded]
    exact h
  digits := isDecimalDigit_padded width n

theorem part?_padded {n : Nat} (h : n < 100) {k : List Char}
    (stop : k.head?.any isDecimalDigit = false) :
    part? 2 (padded 2 n ++ k) = some (n, k) := by
  have digits := digits_padded (by decide : 0 < 2) n
  rw [part?, trimStart_digits digits]
  exact digits?_append digits (Nat.le_of_eq (length_padded 2 n)) (number?_padded (by decide) h) stop

theorem mark?_self {c : Char} (h : isWhiteSpace c = false) (k : List Char) :
    mark? c (c :: k) = some k := by
  rw [mark?, trimStart_cons h]
  simp [dropStart?]

theorem numberFrom?_zeros (width : Nat) (digits : List Char) :
    numberFrom? 10 0 (List.replicate width '0' ++ digits) = numberFrom? 10 0 digits := by
  induction width with
  | zero => rfl
  | succ width ih =>
    have zero : digitValue? 10 '0' = some 0 := by decide
    simpa [List.replicate_succ, numberFrom?, zero] using ih

theorem year?_digits {ds k : List Char} (h : Digits ds) :
    year? (ds ++ k) = (digits? 4 (ds ++ k)).map fun (n, rest) => ((n : Int), rest) := by
  rw [year?, trimStart_digits h]
  cases ds with
  | nil => exact absurd rfl h.some_
  | cons c rest =>
    have digit := h.digits c List.mem_cons_self
    split
    next heq => cases heq; exact absurd digit (by decide)
    next heq => cases heq; exact absurd digit (by decide)
    next => rfl

theorem year?_yearText (year : Int) {k : List Char}
    (stop : k.head?.any isDecimalDigit = false) :
    year? (yearText year ++ k) = some (year, k) := by
  unfold yearText
  split
  next small =>
    have digits := digits_padded (by decide : 0 < 4) year.toNat
    have value := number?_padded (by decide : 0 < 4) (n := year.toNat) (by
      have power : Nat.pow 10 4 = 10000 := rfl
      omega)
    rw [year?_digits digits, digits?_append digits (Nat.le_of_eq (length_padded 4 _)) value stop]
    have same : ((year.toNat : Nat) : Int) = year := by omega
    simp [same]
  next large =>
    let ds := List.replicate (4 - (decimal year.natAbs).length) '0' ++ decimal year.natAbs
    have digits : Digits ds :=
      { some_ := fun none_ => absurd (List.append_eq_nil_iff.1 none_).2 Nat.toDigits_ne_nil
        digits := by
          intro c h
          obtain h | h := List.mem_append.1 h
          · rw [List.eq_of_mem_replicate h]
            decide
          · exact isDecimalDigit_decimal _ c h }
    have value : number? 10 ds = some year.natAbs := by
      rw [number?_of_ne_nil digits.some_, numberFrom?_zeros, numberFrom?_decimal]
    have read : digits? (ds ++ k).length (ds ++ k) = some (year.natAbs, k) :=
      digits?_append digits (List.prefix_append ds k).length_le value stop
    by_cases negative : year < 0
    · rw [if_pos negative, year?, List.cons_append, trimStart_cons (by decide)]
      have same : -((year.natAbs : Nat) : Int) = year := by omega
      change (digits? (ds ++ k).length (ds ++ k)).map _ = _
      rw [read]
      exact congrArg (fun y : Int => some (y, k)) same
    · rw [if_neg negative, year?, List.cons_append, trimStart_cons (by decide)]
      have same : ((year.natAbs : Nat) : Int) = year := by omega
      change (digits? (ds ++ k).length (ds ++ k)).map _ = _
      rw [read]
      exact congrArg (fun y : Int => some (y, k)) same

/-- So many digits behind the point are a number of that fraction of a second. -/
theorem fraction?_padded {width n : Nat} (some_ : 0 < width) (most : width ≤ 9)
    (h : n < Nat.pow 10 width) {k : List Char} (stop : k.head?.any isDecimalDigit = false) :
    fraction? ('.' :: padded width n ++ k) = some (n * Nat.pow 10 (9 - width), k) := by
  have digits := digits_padded some_ n
  have short : (padded width n).length ≤ 9 := by
    rw [length_padded]
    exact most
  have read := digits?_append digits short (number?_padded some_ h) stop
  have beyond : k.dropWhile isDecimalDigit = k := by
    cases k with
    | nil => rfl
    | cons c rest =>
      have here : isDecimalDigit c = false := stop
      simp [List.dropWhile, here]
  have width_ : (padded width n ++ k).length - k.length = width := by
    rw [List.length_append, length_padded]
    omega
  rw [List.cons_append, fraction?, read, Option.map_some]
  dsimp only
  rw [beyond, width_]

theorem fraction?_fractionText {nanosecond : Nat} (h : nanosecond < 1000000000) {c : Char}
    {k : List Char} (stop : isDecimalDigit c = false) (dot : c ≠ '.') :
    fraction? (fractionText nanosecond ++ c :: k) = some (nanosecond, c :: k) := by
  have stop' : (c :: k).head?.any isDecimalDigit = false := stop
  have three : Nat.pow 10 3 = 1000 := rfl
  have six : Nat.pow 10 6 = 1000000 := rfl
  have nine : Nat.pow 10 9 = 1000000000 := rfl
  unfold fractionText
  split
  next zero =>
    rw [zero, List.nil_append, fraction?]
    intro rest is
    cases is
    exact dot rfl
  next =>
    split
    next milli =>
      have read : fraction? ('.' :: padded 3 (nanosecond / 1000000) ++ c :: k) = _ :=
        fraction?_padded (by decide) (by decide) (by omega) stop'
      have scale : Nat.pow 10 (9 - 3) = 1000000 := rfl
      rw [read, scale, Nat.div_mul_cancel (Nat.dvd_of_mod_eq_zero milli)]
    next =>
      split
      next micro =>
        have read : fraction? ('.' :: padded 6 (nanosecond / 1000) ++ c :: k) = _ :=
          fraction?_padded (by decide) (by decide) (by omega) stop'
        have scale : Nat.pow 10 (9 - 6) = 1000 := rfl
        rw [read, scale, Nat.div_mul_cancel (Nat.dvd_of_mod_eq_zero micro)]
      next =>
        have read : fraction? ('.' :: padded 9 nanosecond ++ c :: k) = _ :=
          fraction?_padded (by decide) (by decide) (by omega) stop'
        have scale : Nat.pow 10 (9 - 9) = 1 := rfl
        rw [read, scale, Nat.mul_one]

theorem head?_fractionText (nanosecond : Nat) :
    (fractionText nanosecond ++ ['Z']).head?.any isDecimalDigit = false := by
  unfold fractionText
  split
  · decide
  · split
    · rfl
    · split <;> rfl

/-- A point in time is read back from its text. -/
theorem ofString?_toString {t : Timestamp} (valid : t.Valid) :
    ofString? t.toString = some t := by
  obtain ⟨_, ⟨_, month⟩, ⟨_, day⟩, hour, minute, second, nanosecond⟩ := id valid
  have days : t.day < 100 := by
    have most : Calendar.daysInMonth t.year t.month ≤ 31 := by
      unfold Calendar.daysInMonth
      split
      · split <;> decide
      · split <;> decide
    omega
  rw [ofString?, Timestamp.toString, String.toList_ofList, ofList?, toList]
  simp only [List.append_assoc, List.cons_append, Option.bind_eq_bind]
  rw [year?_yearText t.year rfl]
  simp only [Option.bind_some, mark?_self (show isWhiteSpace '-' = false by decide)]
  rw [part?_padded (by omega) rfl]
  simp only [Option.bind_some, mark?_self (show isWhiteSpace '-' = false by decide)]
  rw [part?_padded days rfl]
  simp only [Option.bind_some]
  rw [part?_padded (by omega) rfl]
  simp only [Option.bind_some, mark?_self (show isWhiteSpace ':' = false by decide)]
  rw [part?_padded (by omega) rfl]
  simp only [Option.bind_some, mark?_self (show isWhiteSpace ':' = false by decide)]
  rw [part?_padded (by omega) (head?_fractionText t.nanosecond)]
  simp only [Option.bind_some]
  rw [fraction?_fractionText nanosecond (by decide) (by decide)]
  have utc : offset? (trimStart ['Z']) = some (0, []) := by decide
  have nothing : trimStart [] = [] := rfl
  have same : t.behind 0 = t := rfl
  simp only [Option.bind_some, utc, nothing, same, true_and]
  exact if_pos ⟨valid, valid⟩

end Timestamp

end ClusterLifecycle
