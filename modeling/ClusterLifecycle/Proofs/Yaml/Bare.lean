import ClusterLifecycle.Proofs.Yaml.Steps

/-!
Texts that stand behind a colon as they are, whatever they hold. A reader takes such a text for a
plain one: it drops the blanks around it and a comment behind it, and a colon that ends a word
breaks it off.

* `bareText?`: what is taken of a line;
* `bare_iff`: the texts that are taken whole;
* `readPlain_lineText?`: the reader takes just that.
-/

namespace ClusterLifecycle.Yaml

open Text Lexer

/-- What ends a line, in each of its forms. -/
def isLineEnd (c : Char) : Bool := isBreak c || c = '\r' || c = '\u0085'

/-- Nothing is left of a line but blanks and a comment. -/
def endsLine (s : List Char) : Bool := (s.dropWhile isBlank).head?.all (· = '#')

/-- A plain text can begin like this. -/
def opensPlain : List Char → Bool
  | [] => false
  | c :: rest =>
    if c ∈ ['-', '?', ':'] then !endsWord rest else !(opensNoPlain c || isBlank c)

/-- A character that opens some other node than a plain text, or ends one. -/
def opensNode (c : Char) : Bool :=
  c ∈ [',', '[', ']', '\x7b', '\x7d', '&', '*', '!', '|', '>', '\'', '"']

/-- What is taken of a line once a plain text has begun. -/
def lineText? : List Char → Option (List Char)
  | [] => some []
  | c :: rest =>
    if isBlank c && endsLine rest then some []
    else if c = ':' && endsWord rest then none
    else (lineText? rest).map (c :: ·)

/-- What is taken of the line behind a colon; none where it cannot be read. -/
def bareText? (s : List Char) : Option (List Char) :=
  if endsLine s then some []
  else if opensPlain (s.dropWhile isBlank) then lineText? (s.dropWhile isBlank)
  else none

/-- A text on one line that opens no other node than a plain text. -/
structure Unmarked (s : List Char) : Prop where
  oneLine : s.any isLineEnd = false
  unmarked : (s.dropWhile isBlank).head?.any opensNode = false

/-- A text that stands for itself without quotes: it opens as a plain text, and nothing in it ends
it or gets lost. -/
structure Bare (s : List Char) : Prop where
  allowed : s.all isAllowed = true
  oneLine : s.any isLineEnd = false
  opens : s ≠ [] → opensPlain s = true
  inner : hasInnerIndicator s = false
  last : s.getLast?.any isBlank = false

instance : DecidablePred Unmarked := fun s =>
  decidable_of_iff (s.any isLineEnd = false ∧ (s.dropWhile isBlank).head?.any opensNode = false)
    ⟨fun ⟨oneLine, unmarked⟩ => ⟨oneLine, unmarked⟩, fun h => ⟨h.oneLine, h.unmarked⟩⟩

instance : DecidablePred Bare := fun s =>
  decidable_of_iff (s.all isAllowed = true ∧ s.any isLineEnd = false ∧
      (s ≠ [] → opensPlain s = true) ∧ hasInnerIndicator s = false ∧
        s.getLast?.any isBlank = false)
    ⟨fun ⟨allowed, oneLine, opens, inner, last⟩ => ⟨allowed, oneLine, opens, inner, last⟩,
      fun h => ⟨h.allowed, h.oneLine, h.opens, h.inner, h.last⟩⟩

section
variable {c : Char} {s t rest : List Char}

theorem isBreak_of_isLineEnd (h : s.any isLineEnd = false) : s.any isBreak = false := by
  rw [List.any_eq_false] at h ⊢
  intro c hc
  have := h c hc
  simp only [isLineEnd, Bool.or_eq_true, not_or] at this
  exact this.1.1

theorem endsLine_blank (h : isBlank c = true) : endsLine (c :: s) = endsLine s := by
  simp [endsLine, h]

theorem endsLine_other (h : isBlank c = false) : endsLine (c :: s) = decide (c = '#') := by
  simp [endsLine, h]

/-- No more is taken than there is. -/
theorem length_lineText? (h : lineText? s = some t) : t.length ≤ s.length := by
  induction s generalizing t with
  | nil => cases h; exact Nat.le_refl _
  | cons c s ih =>
    rw [lineText?] at h
    split at h
    · cases h; exact Nat.zero_le _
    · split at h
      · cases h
      · obtain ⟨t, later, rfl⟩ := Option.map_eq_some_iff.1 h
        exact Nat.succ_le_succ (ih later)

/-- Where a blank is all that is left of a line, it stands before a comment or at the end. -/
theorem lost_of_endsLine (blank : isBlank c = true) (ends : endsLine s = true) :
    hasInnerIndicator (c :: s) = true ∨ (c :: s).getLast?.any isBlank = true := by
  induction s generalizing c with
  | nil => exact .inr (by simpa using blank)
  | cons e s ih =>
    cases next : isBlank e with
    | true =>
      rw [endsLine_blank next] at ends
      rcases ih next ends with inner | last
      · exact .inl (by rw [hasInnerIndicator, inner, Bool.or_true])
      · exact .inr (by simpa using last)
    | false =>
      rw [endsLine_other next] at ends
      obtain rfl := of_decide_eq_true ends
      exact .inl (by simp [hasInnerIndicator, blank])

/-- A line is taken whole where it has no indicator inside and no blank at its end. -/
theorem lineText?_eq_self (oneLine : s.any isBreak = false) :
    lineText? s = some s ↔ hasInnerIndicator s = false ∧ s.getLast?.any isBlank = false := by
  induction s with
  | nil => simp [lineText?, hasInnerIndicator]
  | cons c s ih =>
    obtain ⟨here, later⟩ := Bool.or_eq_false_iff.1 oneLine
    have onward : (lineText? s).map (c :: ·) = some (c :: s) ↔ lineText? s = some s := by
      cases lineText? s <;> simp
    rw [lineText?]
    split
    next lost =>
      obtain ⟨blank, ends⟩ := Bool.and_eq_true_iff.1 lost
      refine iff_of_false (by simp) ?_
      rintro ⟨inner, last⟩
      rcases lost_of_endsLine blank ends with some_ | some_
      · exact absurd some_ (by simp [inner])
      · exact absurd some_ (by simp [last])
    next kept =>
      split
      next colon =>
        have inner : hasInnerIndicator (c :: s) = true := by simp [hasInnerIndicator, colon]
        exact iff_of_false (by simp) fun kept => by simp [kept.1] at inner
      next noColon =>
        rw [onward, ih later]
        have goesOn : isBlank c = true → endsLine s = false := by simpa using kept
        have comment : (isBlank c && s.head? = some '#') = false := by
          cases s with
          | nil => simp
          | cons e s =>
            refine Bool.eq_false_iff.2 fun both => ?_
            obtain ⟨blank, rfl⟩ : isBlank c = true ∧ e = '#' := by simpa using both
            exact absurd (goesOn blank) (by simp [endsLine, isBlank])
        have last : (c :: s).getLast?.any isBlank = s.getLast?.any isBlank := by
          cases s with
          | nil => simpa using mt goesOn (by simp [endsLine])
          | cons => simp
        rw [last, hasInnerIndicator]
        simp [noColon, here, comment]

/-- A plain text begins neither with a blank or a comment nor with a colon that ends a word. -/
theorem opensPlain_cons (h : opensPlain (c :: rest) = true) :
    isBlank c = false ∧ c ≠ '#' ∧ (c = ':' → endsWord rest = false) := by
  rw [opensPlain] at h
  split at h
  next mark =>
    have ends : endsWord rest = false := by simpa using h
    have other : ∀ c ∈ ['-', '?', ':'], isBlank c = false ∧ c ≠ '#' := by
      simp [isBlank]
    exact ⟨(other c mark).1, (other c mark).2, fun _ => ends⟩
  next noMark =>
    simp only [Bool.not_eq_true', Bool.or_eq_false_iff] at h
    refine ⟨h.2, ?_, ?_⟩
    · rintro rfl
      exact absurd h.1 (by decide)
    · rintro rfl
      exact absurd noMark (by decide)

theorem bareText?_blank (h : isBlank c = true) : bareText? (c :: s) = bareText? s := by
  simp [bareText?, endsLine_blank h, h]

theorem bareText?_other (h : isBlank c = false) (noComment : c ≠ '#') :
    bareText? (c :: s) = if opensPlain (c :: s) then lineText? (c :: s) else none := by
  simp [bareText?, endsLine_other h, noComment, h]

theorem length_bareText? (h : bareText? s = some t) : t.length ≤ s.length := by
  unfold bareText? at h
  split at h
  · cases h
    exact Nat.zero_le _
  · split at h
    · exact Nat.le_trans (length_lineText? h) (List.dropWhile_sublist _).length_le
    · cases h

/-- A line is taken whole where it opens as a plain text that is. -/
theorem bareText?_eq_self (oneLine : s.any isBreak = false) :
    bareText? s = some s ↔ (s ≠ [] → opensPlain s = true) ∧ hasInnerIndicator s = false ∧
      s.getLast?.any isBlank = false := by
  cases s with
  | nil => simp [bareText?, endsLine, hasInnerIndicator]
  | cons c s =>
    cases blank : isBlank c with
    | true =>
      rw [bareText?_blank blank]
      refine iff_of_false (fun whole => ?_) fun kept => ?_
      · have short := length_bareText? whole
        rw [List.length_cons] at short
        omega
      · exact absurd (opensPlain_cons (kept.1 (by simp))).1 (by simp [blank])
    | false =>
      by_cases comment : c = '#'
      · subst comment
        refine iff_of_false (fun whole => ?_) fun kept => ?_
        · simp [bareText?, endsLine_other blank] at whole
        · exact absurd rfl (opensPlain_cons (kept.1 (by simp))).2.1
      · rw [bareText?_other blank comment]
        split
        next opens =>
          rw [lineText?_eq_self oneLine]
          exact ⟨fun kept => ⟨fun _ => opens, kept⟩, fun kept => kept.2⟩
        next opens => exact iff_of_false (by simp) fun kept => opens (kept.1 (by simp))

theorem opensNode_of_opensPlain (h : opensPlain (c :: rest) = true) : opensNode c = false := by
  refine Bool.eq_false_iff.2 fun opens => ?_
  have others : ∀ c ∈ [',', '[', ']', '\x7b', '\x7d', '&', '*', '!', '|', '>', '\'', '"'],
      c ∉ ['-', '?', ':'] ∧ opensNoPlain c = true := by simp [opensNoPlain]
  obtain ⟨noMark, noPlain⟩ := others c (of_decide_eq_true opens)
  simp [opensPlain, noMark, noPlain] at h

namespace Bare

theorem unmarked (h : Bare s) : Unmarked s := by
  refine ⟨h.oneLine, ?_⟩
  cases s with
  | nil => rfl
  | cons c s =>
    have opens := h.opens (by simp)
    rw [List.dropWhile_cons_of_neg (by simp [(opensPlain_cons opens).1])]
    exact opensNode_of_opensPlain opens

theorem taken (h : Bare s) : bareText? s = some s :=
  (bareText?_eq_self (isBreak_of_isLineEnd h.oneLine)).2 ⟨h.opens, h.inner, h.last⟩

end Bare

/-- The texts that stand for themselves are those that are taken whole. -/
theorem bare_iff (h : Unmarked s) : Bare s ↔ s.all isAllowed = true ∧ bareText? s = some s := by
  refine ⟨fun bare => ⟨bare.allowed, bare.taken⟩, fun ⟨allowed, taken⟩ => ?_⟩
  obtain ⟨opens, inner, last⟩ := (bareText?_eq_self (isBreak_of_isLineEnd h.oneLine)).1 taken
  exact ⟨allowed, h.oneLine, opens, inner, last⟩

/-- A comment is lost. -/
example : bareText? "RegionOne # primary".toList = some "RegionOne".toList := by decide

end

section
variable {n m : Nat} {g : Gap} {p : Position} {c : Char} {s k rest : List Char} {t : Taken}

theorem readPlain_blank (h : isBlank c = true) (noBreak : g.hasBreak = false) :
    readPlain false n g p (c :: rest) =
      readPlain false n (g.addBlank c) p.next rest := by
  rw [readPlain]
  simp [h, isBreak_of_isBlank h, noBreak]

/-- A comment ends a plain text where blanks stand before it. -/
theorem readPlain_comment (some_ : g ≠ .none) (noBreak : g.hasBreak = false) :
    readPlain false n g p ('#' :: rest) =
      some { text := [], rest := '#' :: rest, position := p } := by
  rw [readPlain]
  simp [isBreak, isBlank, some_, noBreak]

/-- A reader gives no text back that was not there. -/
theorem length_readPlain {flow : Bool} (h : readPlain flow n g p s = some t) :
    t.rest.length ≤ s.length := by
  induction s generalizing g p t with
  | nil =>
    cases h
    exact Nat.le_refl _
  | cons c s ih =>
    rw [readPlain] at h
    split at h
    · exact Nat.le_succ_of_le (ih h)
    · split at h
      · split at h
        · cases h
        · exact Nat.le_succ_of_le (ih h)
      · split at h
        · cases h
          exact Nat.le_refl _
        · split at h
          · cases h
          · split at h
            · cases h
              exact Nat.le_refl _
            · obtain ⟨later, read, rfl⟩ := Option.map_eq_some_iff.1 h
              exact Nat.le_succ_of_le (ih (t := later) read)

/-- A comment goes on to the end of its line. -/
theorem passBlanks_comment {allowed : Bool} (oneLine : s.any isBreak = false) :
    passBlanks false true allowed p (s ++ '\n' :: rest) =
      passBlanks false false true (p.after s).nextLine rest := by
  induction s generalizing p with
  | nil => simp [passBlanks, isBreak]
  | cons c s ih =>
    obtain ⟨here, later⟩ := Bool.or_eq_false_iff.1 oneLine
    rw [List.cons_append, passBlanks, Position.after_other here]
    simp [here, ih later]

/-- Where no key can begin, a line that has ended is passed with all its blanks. -/
theorem passBlanks_endsLine (oneLine : s.any isBreak = false) (ends : endsLine s = true) :
    passBlanks false false false p (s ++ '\n' :: rest) =
      passBlanks false false true (p.after s).nextLine rest := by
  induction s generalizing p with
  | nil => simp [passBlanks, isBreak]
  | cons c s ih =>
    obtain ⟨here, later⟩ := Bool.or_eq_false_iff.1 oneLine
    rw [List.cons_append, passBlanks, Position.after_other here]
    cases blank : isBlank c with
    | true =>
      rw [endsLine_blank blank] at ends
      have either : c = ' ' ∨ c = '\t' := by simpa [isBlank] using blank
      simp [here, either, ih later ends]
    | false =>
      rw [endsLine_other blank] at ends
      obtain rfl := of_decide_eq_true ends
      simp [here, passBlanks_comment later]

theorem reads_endsLine {d : Settled} (oneLine : s.any isBreak = false)
    (ends : endsLine s = true) :
    Reads (inBlock false none p d (s ++ '\n' :: rest))
      (inBlock true none (p.after s).nextLine d rest) := by
  apply Reads.same
  simp only [advance, inBlock, inFlow, List.isEmpty_nil, Bool.not_true]
  rw [passBlanks_endsLine oneLine ends]

/-- A line that has ended, up to the next token. -/
theorem reads_restOfLine {d : Settled} (oneLine : s.any isBreak = false)
    (ends : endsLine s = true) (m : Nat) (k : List Char) :
    ∃ q : Position, q.column = m ∧
      Reads (inBlock false none p d (s ++ '\n' :: (spaces m ++ k))) (inBlock true none q d k) := by
  refine ⟨_, ?_, (reads_endsLine oneLine ends).trans (reads_spaces m)⟩
  rw [column_after_spaces]
  exact Nat.zero_add m

/-- Behind the text its line is passed, and the next token is further on. -/
def Taken.Ends (m : Nat) (k : List Char) (t : Taken) : Prop :=
  ∀ d : Settled, ∃ q : Position, q.column = m ∧
    Reads (inBlock t.atBreak none t.position d t.rest) (inBlock true none q d k)

/-- Behind the text there is a colon where no key can be. -/
def Taken.Stuck (t : Taken) : Prop :=
  t.atBreak = false ∧ ∃ rest, t.rest = ':' :: rest ∧ endsWord rest = true

/-- The text is this one, behind what was there before, and then the line ends; or, where it is to
be none, the text is stuck at a colon. -/
def Taken.Gives (m : Nat) (k before : List Char) (t : Taken) : Option (List Char) → Prop
  | some text => t.text = before ++ text ∧ t.Ends m k
  | none => t.Stuck

theorem Taken.Gives.cons {before : List Char} {text : Option (List Char)}
    (h : t.Gives m k (before ++ [c]) text) : t.Gives m k before (text.map (c :: ·)) := by
  cases text with
  | none => exact h
  | some text => exact ⟨h.1.trans (by simp), h.2⟩

theorem Taken.Gives.behind {before : List Char} {text : Option (List Char)}
    (h : t.Gives m k [] text) : (t.behind before).Gives m k before text := by
  cases text with
  | none => exact h
  | some text => exact ⟨congrArg (before ++ ·) h.1, h.2⟩

theorem Gap.addBlank_ne_none (g : Gap) (c : Char) : g.addBlank c ≠ .none := by
  cases g <;> nofun

/-- A plain text ends where its line does. -/
theorem readPlain_endsLine (oneLine : s.any isBreak = false) (ends : endsLine s = true)
    (noBreak : g.hasBreak = false) (noComment : g = .none → s.head? ≠ some '#')
    (shallow : m < n) (opens : opensToken k = true) :
    ∃ taken, readPlain false n g p (s ++ '\n' :: (spaces m ++ k)) = some taken ∧
      taken.text = [] ∧ taken.Ends m k := by
  induction s generalizing g p with
  | nil =>
    refine ⟨_, readPlain_line noBreak shallow opens, rfl, fun d => ⟨_, ?_, .same rfl⟩⟩
    rw [column_after_spaces]
    exact Nat.zero_add m
  | cons c s ih =>
    obtain ⟨here, later⟩ := Bool.or_eq_false_iff.1 oneLine
    cases blank : isBlank c with
    | true =>
      rw [endsLine_blank blank] at ends
      rw [List.cons_append, readPlain_blank blank noBreak]
      refine ih later ends ((Gap.hasBreak_addBlank g c).trans noBreak) fun none_ => ?_
      exact absurd none_ (Gap.addBlank_ne_none g c)
    | false =>
      rw [endsLine_other blank] at ends
      obtain rfl := of_decide_eq_true ends
      have some_ : g ≠ .none := fun none_ => noComment none_ rfl
      refine ⟨_, readPlain_comment some_ noBreak, rfl, fun d => ?_⟩
      exact reads_restOfLine (s := '#' :: s) oneLine (by simp [endsLine, isBlank]) m k

/-- The reader takes of a line what is to be taken. The induction goes over the line; a gap is open
only in front of more text. -/
theorem readPlain_lineText? (oneLine : s.any isBreak = false) (noBreak : g.hasBreak = false)
    (near : n ≤ p.column + 1)
    (onward : g = .none ∨ n ≤ p.column ∧ 0 < p.column ∧ endsLine s = false)
    (shallow : m < n) (opens : opensToken k = true) :
    ∃ taken, readPlain false n g p (s ++ '\n' :: (spaces m ++ k)) = some taken ∧
      taken.Gives m k g.text (lineText? s) := by
  induction s generalizing g p with
  | nil =>
    obtain rfl := onward.resolve_right fun more => by simp [endsLine] at more
    exact readPlain_endsLine oneLine rfl rfl (by simp) shallow opens
  | cons c s ih =>
    obtain ⟨here, later⟩ := Bool.or_eq_false_iff.1 oneLine
    rw [lineText?]
    cases blank : isBlank c with
    | true =>
      rw [endsLine_blank blank] at onward
      by_cases ends : endsLine s = true
      · obtain rfl := onward.resolve_right fun more => by simp [ends] at more
        rw [if_pos (by simp [ends])]
        refine readPlain_endsLine oneLine (by rw [endsLine_blank blank, ends]) rfl ?_ shallow opens
        rintro - is
        cases is
        cases blank
      · have noColon : c ≠ ':' := by
          rintro rfl
          cases blank
        obtain ⟨taken, read, gives⟩ := ih (g := g.addBlank c) (p := p.next) later
          ((Gap.hasBreak_addBlank g c).trans noBreak) (Nat.le_succ_of_le near)
          (.inr ⟨near, Nat.succ_pos _, by simpa using ends⟩)
        rw [Gap.text_addBlank noBreak] at gives
        rw [if_neg (by simp [ends]), if_neg (by simp [noColon]), List.cons_append,
          readPlain_blank blank noBreak]
        exact ⟨taken, read, gives.cons⟩
    | false =>
      rw [endsLine_other blank] at onward
      have near' : g ≠ .none → n ≤ p.column ∧ 0 < p.column ∧ c ≠ '#' := fun some_ => by
        simpa using onward.resolve_left some_
      have same := endsWord_line s (spaces m ++ k)
      rw [if_neg (by simp), List.cons_append]
      split
      next colon =>
        obtain ⟨is, ends⟩ : c = ':' ∧ endsWord s = true := by simpa using colon
        subst is
        rw [readPlain_colon noBreak (same.trans ends)]
        exact ⟨_, rfl, rfl, _, rfl, same.trans ends⟩
      next noColon =>
        obtain ⟨taken, read, gives⟩ := ih (g := .none) (p := p.next) later rfl
          (Nat.le_succ_of_le near) (.inl rfl)
        rw [readPlain_word here blank near' (by simpa [same] using noColon), read]
        exact ⟨_, rfl, gives.behind.cons⟩

end

end ClusterLifecycle.Yaml
