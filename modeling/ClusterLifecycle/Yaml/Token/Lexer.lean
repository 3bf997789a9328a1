import ClusterLifecycle.Yaml.Scalar
import ClusterLifecycle.Yaml.Tag

/-!
A YAML text as tokens. Collections in block style are marked by indentation alone: a token opens
one where the text is indented further, and `Token.blockEnd` closes it where the text falls back.
A key shows itself only at its colon, so the place where one may have begun is kept in mind.
-/

namespace ClusterLifecycle.Yaml

/-- A place where a key may have begun. -/
structure Candidate where
  /-- How many tokens stand before it. -/
  tokensBefore : Nat
  position : Position
  /-- Nothing but a key can begin there. -/
  required : Bool
deriving DecidableEq, Repr

/-- A key ends on its own line and within 1024 characters. -/
def Candidate.isStale (k : Candidate) (p : Position) : Bool :=
  k.position.line < p.line || k.position.index + 1024 < p.index

structure Lexer where
  rest : List Char
  position : Position := {}
  /-- The column of the innermost open block collection, `-1` where there is none. -/
  indent : Int := -1
  /-- The columns of the collections around it, the innermost first. -/
  outerIndents : List Int := []
  /-- A key may begin here. -/
  keyAllowed : Bool := true
  candidate : Option Candidate := none
  /-- The candidates outside each open bracket, the innermost bracket first. -/
  outerCandidates : List (Option Candidate) := []
  /-- The last token first. -/
  tokens : List Token := []
deriving Repr

namespace Lexer

def start (text : List Char) : Lexer :=
  match text with
  | '\ufeff' :: rest => { rest, position := Position.next {} }
  | _ => { rest := text }

def inFlow (s : Lexer) : Bool := !s.outerCandidates.isEmpty

def emit (t : Token) (s : Lexer) : Lexer := { s with tokens := t :: s.tokens }

/-- Passes blanks, comments and line ends. A line end lets a key begin, unless inside brackets;
where a key may begin, a tab is not passed. -/
def passBlanks (flow inComment keyAllowed : Bool) (p : Position) :
    List Char → List Char × Position × Bool
  | [] => ([], p, keyAllowed)
  | c :: rest =>
    if isBreak c then passBlanks flow false (keyAllowed || !flow) p.nextLine rest
    else if inComment || c = ' ' || (c = '\t' && (flow || !keyAllowed)) then
      passBlanks flow inComment keyAllowed p.next rest
    else if c = '#' then passBlanks flow true keyAllowed p.next rest
    else (c :: rest, p, keyAllowed)

/-- Closes the block collections that are indented further than the column. -/
def closeTo (column : Int) : Int → List Int → List Token → Int × List Int × List Token
  | indent, [], tokens => (indent, [], tokens)
  | indent, outer :: rest, tokens =>
    if column < indent then closeTo column outer rest (.blockEnd :: tokens)
    else (indent, outer :: rest, tokens)

def close (column : Int) (s : Lexer) : Lexer :=
  if s.inFlow then s
  else
    let (indent, outerIndents, tokens) := closeTo column s.indent s.outerIndents s.tokens
    { s with indent, outerIndents, tokens }

/-- Opens a block collection at the column unless one is open there; its token stands after the
first `before` tokens. -/
def openAt (column : Nat) (t : Token) (before : Nat) (s : Lexer) : Lexer :=
  if s.inFlow || column ≤ s.indent then s
  else
    let after := s.tokens.length - before
    { s with
      indent := column
      outerIndents := s.indent :: s.outerIndents
      tokens := s.tokens.take after ++ t :: s.tokens.drop after }

def openHere (t : Token) (s : Lexer) : Lexer := s.openAt s.position.column t s.tokens.length

/-- Gives the candidate up, which fails if only a key can be there. -/
def dropCandidate (s : Lexer) : Option Lexer :=
  if s.candidate.any (·.required) then none else some { s with candidate := none }

/-- Gives up every candidate that is too far back. -/
def dropStale (s : Lexer) : Option Lexer :=
  let all := s.candidate :: s.outerCandidates
  if all.any fun k => k.any fun k => k.isStale s.position && k.required then none
  else
    let keep (k : Option Candidate) := k.filter fun k => !k.isStale s.position
    some { s with candidate := keep s.candidate, outerCandidates := s.outerCandidates.map keep }

/-- Marks this place as one where a key may begin. -/
def mark (s : Lexer) : Option Lexer :=
  if s.keyAllowed then do
    let required := !s.inFlow && s.indent = s.position.column
    let s ← s.dropCandidate
    some { s with candidate := some ⟨s.tokens.length, s.position, required⟩ }
  else some s

/-- Passes an indicator of `n` characters. -/
def pass (n : Nat) (s : Lexer) : Lexer :=
  { s with rest := s.rest.drop n, position := s.position.skip n }

def setKeyAllowed (allowed : Bool) (s : Lexer) : Lexer := { s with keyAllowed := allowed }

/-- The text `taken` becomes a token. -/
def emitTaken (plain : Bool) (taken : Taken) (s : Lexer) : Lexer :=
  { s with rest := taken.rest, position := taken.position }.emit
    (.scalar (String.ofList taken.text) plain)

def flowStart (t : Token) (s : Lexer) : Option Lexer := do
  let s ← s.mark
  some ({ s with
    candidate := none
    outerCandidates := s.candidate :: s.outerCandidates
    keyAllowed := true }.pass 1 |>.emit t)

def flowEnd (t : Token) (s : Lexer) : Option Lexer := do
  let s ← s.dropCandidate
  let s := match s.outerCandidates with
    | [] => s
    | k :: outer => { s with candidate := k, outerCandidates := outer }
  some (s.setKeyAllowed false |>.pass 1 |>.emit t)

def comma (s : Lexer) : Option Lexer := do
  let s ← s.dropCandidate
  some (s.setKeyAllowed true |>.pass 1 |>.emit .comma)

def item (s : Lexer) : Option Lexer :=
  if !s.inFlow && !s.keyAllowed then none
  else do
    let s ← (s.openHere .blockSequence).dropCandidate
    some (s.setKeyAllowed true |>.pass 1 |>.emit .item)

def markedKey (s : Lexer) : Option Lexer :=
  if !s.inFlow && !s.keyAllowed then none
  else do
    let s ← (s.openHere .blockMapping).dropCandidate
    some (s.setKeyAllowed (!s.inFlow) |>.pass 1 |>.emit .key)

/-- A colon makes a key of what follows the candidate; without one it stands by itself. -/
def value (s : Lexer) : Option Lexer :=
  match s.candidate with
  | some k =>
    let after := s.tokens.length - k.tokensBefore
    let s := { s with
      tokens := s.tokens.take after ++ Token.key :: s.tokens.drop after
      candidate := none
      keyAllowed := false }
    let s := s.openAt k.position.column .blockMapping k.tokensBefore
    some (s.pass 1 |>.emit .value)
  | none =>
    if !s.inFlow && !s.keyAllowed then none
    else
      some (s.openHere .blockMapping |>.setKeyAllowed (!s.inFlow) |>.pass 1 |>.emit .value)

def marker (t : Token) (s : Lexer) : Option Lexer := do
  let s ← (s.close (-1)).dropCandidate
  some (s.setKeyAllowed false |>.pass 3 |>.emit t)

def directive (s : Lexer) : Option Lexer := do
  let s ← (s.close (-1)).dropCandidate
  let (t, rest) ← readDirective (s.rest.drop 1)
  let (rest, _) ← restOfLine rest
  some ({ s with rest, position := s.position.nextLine }.setKeyAllowed false |>.emit t)

def name (t : String → Token) (s : Lexer) : Option Lexer := do
  let s ← s.mark
  let (name, _) ← readName (s.rest.drop 1)
  some (s.setKeyAllowed false |>.pass (name.length + 1) |>.emit (t (String.ofList name)))

def tag (s : Lexer) : Option Lexer := do
  let s ← s.mark
  let ((handle, suffix), rest) ← readTag s.inFlow s.rest
  some (s.setKeyAllowed false |>.pass (s.rest.length - rest.length) |>.emit
    (.tag (String.ofList handle) (String.ofList suffix)))

def block (literal : Bool) (s : Lexer) : Option Lexer := do
  let s ← s.dropCandidate
  let taken ← readBlock literal s.indent s.position.next (s.rest.drop 1)
  some (s.setKeyAllowed true |>.emitTaken false taken)

def quoted (single : Bool) (s : Lexer) : Option Lexer := do
  let s ← s.mark
  let read := if single then readSingle else readDouble
  let taken ← read .none s.position.next (s.rest.drop 1)
  some (s.setKeyAllowed false |>.emitTaken false taken)

def plain (s : Lexer) : Option Lexer := do
  let s ← s.mark
  let taken ← readPlain s.inFlow (s.indent + 1).toNat .none s.position s.rest
  some (s.setKeyAllowed taken.atBreak |>.emitTaken true taken)

/-- The characters that cannot open a plain text by themselves. -/
def opensNoPlain (c : Char) : Bool :=
  c ∈ ['-', '?', ':', ',', '[', ']', '\x7b', '\x7d', '#', '&', '*', '!', '|', '>', '\'', '"', '%',
    '@', '\x60']

/-- Reads the token that begins with `c`. -/
def token (c : Char) (after : List Char) (s : Lexer) : Option Lexer :=
  let flow := s.inFlow
  if s.position.column = 0 && c = '%' then s.directive
  else if s.position.column = 0 && isMarker (c :: after) then
    s.marker (if c = '-' then .documentStart else .documentEnd)
  else if c = '[' then s.flowStart .flowSequence
  else if c = '\x7b' then s.flowStart .flowMapping
  else if c = ']' then s.flowEnd .flowSequenceEnd
  else if c = '\x7d' then s.flowEnd .flowMappingEnd
  else if c = ',' then s.comma
  else if c = '-' && endsWord after then s.item
  else if c = '?' && (flow || endsWord after) then s.markedKey
  else if c = ':' && (flow || endsWord after) then s.value
  else if c = '*' then s.name .alias
  else if c = '&' then s.name .anchor
  else if c = '!' then s.tag
  else if c = '|' && !flow then s.block true
  else if c = '>' && !flow then s.block false
  else if c = '\'' then s.quoted true
  else if c = '"' then s.quoted false
  else if !(opensNoPlain c || isBlank c) || (c = '-' && !after.head?.any isBlank) ||
      (!flow && (c = '?' || c = ':')) then s.plain
  else none

/-- Passes what lies before the next token. -/
def advance (s : Lexer) : Option Lexer :=
  let (rest, position, keyAllowed) :=
    passBlanks s.inFlow false s.keyAllowed s.position s.rest
  (dropStale { s with rest, position, keyAllowed }).map fun s => s.close s.position.column

/-- Reads on to the end; each round takes a character, so the length of the text is fuel enough. -/
def run : Nat → Lexer → Option (List Token)
  | 0, _ => none
  | fuel + 1, s =>
    (s.advance).bind fun s =>
      match s.rest with
      | [] => ((s.close (-1)).dropCandidate).map (·.tokens.reverse)
      | c :: after => (s.token c after).bind (run fuel)

end Lexer

/-- The tokens of a text, if it has no fault. -/
def tokens? (text : List Char) : Option (List Token) :=
  if text.all isAllowed then
    let text := uniformBreaks text
    (Lexer.start text).run (text.length + 1)
  else none

end ClusterLifecycle.Yaml
