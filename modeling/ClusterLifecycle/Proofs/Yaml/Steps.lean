import ClusterLifecycle.Proofs.Yaml.PlainText
import ClusterLifecycle.Yaml.Token.Lexer

/-!
Reading token by token. A run of the lexer is a chain of steps, and what it passes between two
tokens does not count as one.

* `Reads`: the steps from one state to another;
* `Reads.run_eq`: a run goes on from where the steps have led.
-/

namespace ClusterLifecycle.Yaml.Lexer

/-- One token is read. -/
def Step (s t : Lexer) : Prop :=
  ∃ u c after, s.advance = some u ∧ u.rest = c :: after ∧ u.token c after = some t ∧
    t.rest.length ≤ after.length

/-- Tokens are read one after the other, up to a state that goes on as `t` does. -/
inductive Reads : Lexer → Lexer → Prop where
  | same {s t : Lexer} (h : s.advance = t.advance) : Reads s t
  | step {s t u : Lexer} (h : Step s t) (later : Reads t u) : Reads s u

theorem Reads.trans {s t u : Lexer} (h : Reads s t) (h' : Reads t u) : Reads s u := by
  induction h with
  | same h =>
    cases h' with
    | same h' => exact .same (h.trans h')
    | step h' later =>
      rw [Step, ← h] at h'
      exact .step h' later
  | step h _ ih => exact .step h (ih h')

/-- What lies ahead once blanks are passed. -/
def ahead (s : Lexer) : Nat := (s.advance.map fun t => t.rest.length).getD 0

theorem length_passBlanks (flow inComment keyAllowed : Bool) (p : Position) (text : List Char) :
    (passBlanks flow inComment keyAllowed p text).1.length ≤ text.length := by
  induction text generalizing inComment keyAllowed p with
  | nil => exact Nat.le_refl _
  | cons c rest ih =>
    rw [passBlanks]
    split
    · exact Nat.le_succ_of_le (ih ..)
    · split
      · exact Nat.le_succ_of_le (ih ..)
      · split
        · exact Nat.le_succ_of_le (ih ..)
        · exact Nat.le_refl _

theorem rest_close (column : Int) (s : Lexer) : (s.close column).rest = s.rest := by
  unfold close
  split <;> rfl

theorem ahead_le (s : Lexer) : s.ahead ≤ s.rest.length := by
  have shorter := length_passBlanks s.inFlow false s.keyAllowed s.position s.rest
  unfold ahead advance
  generalize passBlanks s.inFlow false s.keyAllowed s.position s.rest = passed at shorter ⊢
  obtain ⟨rest, position, keyAllowed⟩ := passed
  dsimp only [dropStale]
  split
  · exact Nat.zero_le _
  · simpa [rest_close] using shorter

/-- A run with fuel enough goes on from where the steps have led. -/
theorem Reads.run_eq {s t : Lexer} (h : Reads s t) {fuel : Nat} (enough : s.ahead < fuel) :
    ∃ fuel', t.ahead < fuel' ∧ run fuel s = run fuel' t := by
  induction h generalizing fuel with
  | @same s t h =>
    refine ⟨fuel, by simpa only [ahead, h] using enough, ?_⟩
    cases fuel with
    | zero => rfl
    | succ fuel => rw [run, run, h]
  | @step s t u h _ ih =>
    obtain ⟨v, c, after, advance, rest, token, shorter⟩ := h
    cases fuel with
    | zero => exact absurd enough (Nat.not_lt_zero _)
    | succ fuel =>
      have length : s.ahead = after.length + 1 := by simp [ahead, advance, rest]
      have less : t.ahead < fuel := by
        have := t.ahead_le
        omega
      obtain ⟨fuel', enough', same⟩ := ih less
      refine ⟨fuel', enough', ?_⟩
      rw [← same, run, advance, Option.bind_some, rest]
      exact congrArg (·.bind (run fuel)) token

/-- What is settled: the open block collections and the tokens. -/
structure Settled where
  indent : Int := -1
  outer : List Int := []
  tokens : List Token := []

namespace Settled

def emit (t : Token) (d : Settled) : Settled := { d with tokens := t :: d.tokens }

/-- A collection at the column is open from here on. -/
def enter (column : Nat) (t : Token) (d : Settled) : Settled :=
  if column ≤ d.indent then d else ⟨column, d.indent :: d.outer, t :: d.tokens⟩

theorem enter_open {column : Nat} {t : Token} {d : Settled} (h : d.indent = column) :
    d.enter column t = d := by
  simp [enter, h]

theorem enter_new {column : Nat} {t : Token} {d : Settled} (h : d.indent < column) :
    d.enter column t = ⟨column, d.indent :: d.outer, t :: d.tokens⟩ := by
  simp [enter, show ¬(column : Int) ≤ d.indent by omega]

end Settled

/-- A place outside all brackets. -/
def inBlock (allowed : Bool) (k : Option Candidate) (p : Position) (d : Settled)
    (rest : List Char) : Lexer :=
  { rest, position := p, indent := d.indent, outerIndents := d.outer, keyAllowed := allowed
    candidate := k, tokens := d.tokens }

section
variable {allowed : Bool} {k : Option Candidate} {p : Position} {d : Settled} {rest : List Char}

theorem reads_space :
    Reads (inBlock allowed k p d (' ' :: rest)) (inBlock allowed k p.next d rest) := by
  apply Reads.same
  simp only [advance, inBlock]
  rw [passBlanks]
  rfl

theorem reads_spaces (n : Nat) :
    Reads (inBlock allowed k p d (spaces n ++ rest))
      (inBlock allowed k (p.after (spaces n)) d rest) := by
  induction n generalizing p with
  | zero => exact .same rfl
  | succ n ih => exact reads_space.trans ih

theorem reads_break :
    Reads (inBlock allowed k p d ('\n' :: rest)) (inBlock true k p.nextLine d rest) := by
  apply Reads.same
  simp only [advance, inBlock]
  rw [passBlanks]
  simp [show isBreak '\n' = true by decide, inFlow]

theorem passBlanks_eq {flow : Bool} (opens : opensToken rest = true) :
    passBlanks flow false allowed p rest = (rest, p, allowed) := by
  cases rest with
  | nil => rfl
  | cons c rest =>
    obtain ⟨blank, break_, hash⟩ := opensToken_cons opens
    obtain ⟨space, tab⟩ : c ≠ ' ' ∧ c ≠ '\t' := by simpa [isBlank] using blank
    rw [passBlanks]
    simp [break_, hash, space, tab]

/-- A candidate on an earlier line does not count any more. -/
theorem reads_stale (opens : opensToken rest = true)
    (old : ∀ c, k = some c → c.required = false ∧ c.position.line < p.line) :
    Reads (inBlock allowed k p d rest) (inBlock allowed none p d rest) := by
  apply Reads.same
  cases k with
  | none => rfl
  | some c =>
    obtain ⟨optional, earlier⟩ := old c rfl
    simp [advance, inBlock, passBlanks_eq opens, dropStale, optional, Candidate.isStale, earlier,
      Option.filter]

/-- A collection that is indented further than the next token is over. -/
theorem reads_close {indent outer : Int} {around : List Int} {tokens : List Token}
    (opens : opensToken rest = true) (shallow : p.column < indent) :
    Reads (inBlock allowed none p ⟨indent, outer :: around, tokens⟩ rest)
      (inBlock allowed none p ⟨outer, around, .blockEnd :: tokens⟩ rest) := by
  apply Reads.same
  simp [advance, inBlock, passBlanks_eq opens, dropStale, close, closeTo, shallow, inFlow]

theorem closeTo_eq {column indent : Int} (h : indent ≤ column) (outer : List Int)
    (tokens : List Token) : closeTo column indent outer tokens = (indent, outer, tokens) := by
  cases outer with
  | nil => rfl
  | cons outer around => simp [closeTo, show ¬column < indent by omega]

/-- Nothing lies before a token that is indented far enough. -/
theorem advance_inBlock (opens : opensToken rest = true) (deep : d.indent ≤ p.column)
    (fresh : ∀ c, k = some c → c.isStale p = false) :
    (inBlock allowed k p d rest).advance = some (inBlock allowed k p d rest) := by
  have kept : (k.filter fun c => !c.isStale p) = k := by
    cases k with
    | none => rfl
    | some c => simp [Option.filter, fresh c rfl]
  have none_ : (k.any fun c => c.isStale p && c.required) = false := by
    cases k with
    | none => rfl
    | some c => simp [fresh c rfl]
  simp [advance, inBlock, passBlanks_eq opens, dropStale, close, closeTo_eq deep, inFlow, kept,
    none_]

/-- Where nothing may be a key, nothing is stale. -/
theorem fresh_none (c : Candidate) : none = some c → c.isStale p = false := by
  intro h
  cases h

/-- The token that is next, and what comes after it. -/
theorem reads_token {c : Char} {after : List Char} {t : Lexer}
    (opens : opensToken (c :: after) = true) (deep : d.indent ≤ p.column)
    (fresh : ∀ c, k = some c → c.isStale p = false)
    (token : (inBlock allowed k p d (c :: after)).token c after = some t)
    (shorter : t.rest.length ≤ after.length) :
    Reads (inBlock allowed k p d (c :: after)) t :=
  .step ⟨_, c, after, advance_inBlock opens deep fresh, rfl, token, shorter⟩ (.same rfl)

theorem openHere_inBlock (t : Token) :
    (inBlock allowed k p d rest).openHere t = inBlock allowed k p (d.enter p.column t) rest := by
  by_cases deep : (p.column : Int) ≤ d.indent
  · simp [openHere, openAt, inBlock, inFlow, Settled.enter, deep]
  · simp [openHere, openAt, inBlock, inFlow, Settled.enter, deep]

/-- The dash in front of an item. -/
theorem reads_item (deep : d.indent ≤ p.column) (h : endsWord rest = true) :
    Reads (inBlock true none p d ('-' :: rest))
      (inBlock true none p.next ((d.enter p.column .blockSequence).emit .item) rest) := by
  have noMarker : isMarker ('-' :: rest) = false := by
    cases rest with
    | nil => rfl
    | cons c rest =>
      unfold isMarker
      split
      next heq => cases heq; exact absurd h (by simp [endsWord, isBlank, isBreak])
      next heq => cases heq
      next => rfl
  refine reads_token (by simp [opensToken, isBlank, isBreak]) deep fresh_none ?_ (Nat.le_refl _)
  have dispatched (s : Lexer) : s.token '-' rest = s.item := by simp [token, noMarker, h]
  rw [dispatched, item, openHere_inBlock]
  rfl

/-- The mark in front of a key that is more than a word. -/
theorem reads_markedKey (deep : d.indent ≤ p.column) (h : endsWord rest = true) :
    Reads (inBlock true none p d ('?' :: rest))
      (inBlock true none p.next ((d.enter p.column .blockMapping).emit .key) rest) := by
  refine reads_token (by simp [opensToken, isBlank, isBreak]) deep fresh_none ?_ (Nat.le_refl _)
  have dispatched (s : Lexer) : s.token '?' rest = s.markedKey := by simp [token, isMarker, h]
  rw [dispatched, markedKey, openHere_inBlock]
  rfl

/-- The colon behind a marked key. -/
theorem reads_colon (there : d.indent = p.column) (h : endsWord rest = true) :
    Reads (inBlock true none p d (':' :: rest)) (inBlock true none p.next (d.emit .value) rest) := by
  refine reads_token (by simp [opensToken, isBlank, isBreak]) (Int.le_of_eq there) fresh_none ?_
    (Nat.le_refl _)
  have dispatched (s : Lexer) : s.token ':' rest = s.value := by simp [token, isMarker, h]
  have free : (inBlock true none p d (':' :: rest)).value =
      some (((inBlock true none p d (':' :: rest)).openHere .blockMapping).setKeyAllowed true
        |>.pass 1 |>.emit .value) := rfl
  rw [dispatched, free, openHere_inBlock, Settled.enter_open there]
  rfl

/-- The colon behind a key that began at the candidate. -/
theorem reads_keyColon {t : Token} {start : Position} {required : Bool}
    (deep : d.indent ≤ p.column) (h : endsWord rest = true)
    (fresh : (Candidate.mk d.tokens.length start required).isStale p = false) :
    Reads (inBlock allowed (some ⟨d.tokens.length, start, required⟩) p (d.emit t) (':' :: rest))
      (inBlock false none p.next
        ((((d.enter start.column .blockMapping).emit .key).emit t).emit .value) rest) := by
  refine reads_token (by simp [opensToken, isBlank, isBreak]) deep
    (fun c hc => by cases hc; exact fresh) ?_ (Nat.le_refl _)
  have dispatched (s : Lexer) : s.token ':' rest = s.value := by simp [token, isMarker, h]
  rw [dispatched]
  by_cases open_ : (start.column : Int) ≤ d.indent
  · simp [value, inBlock, Settled.emit, Settled.enter, openAt, inFlow, open_, pass, emit,
      Position.skip, Position.next]
  · have two : d.tokens.length + 1 + 1 - d.tokens.length = 2 := by omega
    simp [value, inBlock, Settled.emit, Settled.enter, openAt, inFlow, open_, pass, emit,
      Position.skip, Position.next, two]

/-- The place as one where a key may have begun, where it is one. -/
def candidateAt (allowed : Bool) (p : Position) (d : Settled) : Option Candidate :=
  if allowed then some ⟨d.tokens.length, p, d.indent = p.column⟩ else none

theorem mark_inBlock :
    (inBlock allowed none p d rest).mark =
      some (inBlock allowed (candidateAt allowed p d) p d rest) := by
  cases allowed <;> rfl

/-- Where only a key can begin a collection is open, and elsewhere the candidate may be dropped. -/
theorem candidateAt_optional (off : d.indent < p.column) {c : Candidate}
    (h : candidateAt allowed p d = some c) : c.required = false ∧ c.position = p := by
  unfold candidateAt at h
  split at h
  · cases h
    exact ⟨decide_eq_false (by omega), rfl⟩
  · cases h

/-- An empty collection in brackets. -/
theorem reads_brackets {opening closing : Char} {t t' : Token}
    (opens : ∀ k, opensToken (opening :: k) = true) (closes : ∀ k, opensToken (closing :: k) = true)
    (start : ∀ (s : Lexer) (k : List Char), s.token opening k = s.flowStart t)
    (stop : ∀ (s : Lexer) (k : List Char), s.token closing k = s.flowEnd t')
    (off : d.indent < p.column) :
    Reads (inBlock allowed none p d (opening :: closing :: rest))
      (inBlock false (candidateAt allowed p d) p.next.next ((d.emit t).emit t') rest) := by
  let inside : Lexer :=
    { rest := closing :: rest, position := p.next, indent := d.indent, outerIndents := d.outer
      keyAllowed := true, candidate := none, outerCandidates := [candidateAt allowed p d]
      tokens := t :: d.tokens }
  have entered : (inBlock allowed none p d (opening :: closing :: rest)).token opening
      (closing :: rest) = some inside := by
    rw [start, flowStart, mark_inBlock]
    rfl
  have keep : ((candidateAt allowed p d).filter fun c => !c.isStale p.next) =
      candidateAt allowed p d := by
    cases hc : candidateAt allowed p d with
    | none => rfl
    | some c =>
      obtain ⟨_, there⟩ := candidateAt_optional off hc
      simp [Option.filter, Candidate.isStale, there, Position.next]
  have optional :
      ((candidateAt allowed p d).any fun c => c.isStale p.next && c.required) = false := by
    cases hc : candidateAt allowed p d with
    | none => rfl
    | some c => simp [(candidateAt_optional off hc).1]
  have ready : inside.advance = some inside := by
    simp [inside, advance, passBlanks_eq (closes rest), dropStale, close, inFlow, keep, optional]
  have left : inside.token closing rest =
      some (inBlock false (candidateAt allowed p d) p.next.next ((d.emit t).emit t') rest) := by
    rw [stop]
    rfl
  have enters :=
    reads_token (k := none) (opens _) (Int.le_of_lt off) fresh_none entered (Nat.le_refl _)
  exact enters.trans (.step ⟨inside, closing, rest, ready, rfl, left, Nat.le_refl _⟩ (.same rfl))

/-- What follows on the line of a value is only its end, and the next token is further on. -/
theorem reads_lineEnd (allowed : Bool) {n : Nat} (opens : opensToken rest = true)
    (old : ∀ c, k = some c → c.required = false ∧ c.position.line ≤ p.line) :
    ∃ q : Position, q.column = n ∧
      Reads (inBlock allowed k p d ('\n' :: (spaces n ++ rest))) (inBlock true none q d rest) := by
  have column : (p.nextLine.after (spaces n)).column = n := by
    rw [column_after_spaces]
    exact Nat.zero_add n
  have line : (p.nextLine.after (spaces n)).line = p.line + 1 := by
    rw [Position.after_eq_skip isBreak_of_mem_spaces]
    rfl
  refine ⟨_, column, (reads_break.trans (reads_spaces n)).trans (reads_stale opens ?_)⟩
  intro c hc
  obtain ⟨optional, earlier⟩ := old c hc
  exact ⟨optional, by omega⟩

end

theorem reads_sequenceBrackets {allowed : Bool} {p : Position} {d : Settled} {rest : List Char}
    (off : d.indent < p.column) :
    Reads (inBlock allowed none p d ('[' :: ']' :: rest))
      (inBlock false (candidateAt allowed p d) p.next.next
        ((d.emit .flowSequence).emit .flowSequenceEnd) rest) :=
  reads_brackets (fun _ => by simp [opensToken, isBlank, isBreak])
    (fun _ => by simp [opensToken, isBlank, isBreak])
    (fun s k => by simp [token, isMarker]) (fun s k => by simp [token, isMarker]) off

theorem reads_mappingBrackets {allowed : Bool} {p : Position} {d : Settled} {rest : List Char}
    (off : d.indent < p.column) :
    Reads (inBlock allowed none p d ('\x7b' :: '\x7d' :: rest))
      (inBlock false (candidateAt allowed p d) p.next.next
        ((d.emit .flowMapping).emit .flowMappingEnd) rest) :=
  reads_brackets (fun _ => by simp [opensToken, isBlank, isBreak])
    (fun _ => by simp [opensToken, isBlank, isBreak])
    (fun s k => by simp [token, isMarker]) (fun s k => by simp [token, isMarker]) off

end ClusterLifecycle.Yaml.Lexer
