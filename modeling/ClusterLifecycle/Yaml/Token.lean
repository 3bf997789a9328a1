import ClusterLifecycle.Yaml.Character

/-!
The tokens of a YAML text, and how the words, quoted texts and blocks among them are read.
-/

namespace ClusterLifecycle.Yaml

inductive Token where
  | documentStart
  | documentEnd
  | version (major minor : Nat)
  /-- What a handle stands for at the start of a tag. -/
  | handle (handle start : String)
  | blockSequence
  | blockMapping
  | blockEnd
  | flowSequence
  | flowSequenceEnd
  | flowMapping
  | flowMappingEnd
  | item
  | comma
  | key
  | value
  | alias (name : String)
  | anchor (name : String)
  | tag (handle suffix : String)
  | scalar (text : String) (plain : Bool)
deriving DecidableEq, Repr

/-- How far a text has been read. -/
structure Position where
  index : Nat := 0
  line : Nat := 0
  column : Nat := 0
deriving DecidableEq, Repr

namespace Position

def next (p : Position) : Position := { p with index := p.index + 1, column := p.column + 1 }

def nextLine (p : Position) : Position := ⟨p.index + 1, p.line + 1, 0⟩

def skip (n : Nat) (p : Position) : Position :=
  { p with index := p.index + n, column := p.column + n }

end Position

/-- `---` or `...` as a word of its own. -/
def isMarker : List Char → Bool
  | '-' :: '-' :: '-' :: rest | '.' :: '.' :: '.' :: rest => endsWord rest
  | _ => false

/-- What has been passed since the last character of a text that may go on. -/
inductive Gap where
  | none
  /-- Blanks, the last one first. -/
  | blanks (reversed : List Char)
  /-- A first line break and further ones, the last one first. Where a backslash took the first
  break away there is none. -/
  | breaks (first : Option Char) (reversed : List Char)
deriving DecidableEq, Repr

namespace Gap

def addBlank (c : Char) : Gap → Gap
  | none => blanks [c]
  | blanks reversed => blanks (c :: reversed)
  | breaks first reversed => breaks first reversed

def addBreak (c : Char) : Gap → Gap
  | breaks first reversed => breaks first (c :: reversed)
  | _ => breaks (some c) []

def hasBreak : Gap → Bool
  | breaks .. => true
  | _ => false

/-- What a gap adds to the text around it: a single line break becomes a space, and the first of
several is left out. -/
def text : Gap → List Char
  | none => []
  | blanks reversed => reversed.reverse
  | breaks (some '\n') [] => [' ']
  | breaks (some '\n') reversed => reversed.reverse
  | breaks first reversed => first.toList ++ reversed.reverse

end Gap

/-- A text with what follows it. -/
structure Taken where
  text : List Char
  rest : List Char
  position : Position
  /-- A line break ends the text. -/
  atBreak : Bool := false
deriving Repr

def Taken.behind (before : List Char) (t : Taken) : Taken := { t with text := before ++ t.text }

/-- The character that a letter names after a backslash. -/
def escapeOf? (letter : Char) : Option Char :=
  [('0', '\x00'), ('a', '\x07'), ('b', '\x08'), ('t', '\t'), ('\t', '\t'), ('n', '\n'),
    ('v', '\x0b'), ('f', '\x0c'), ('r', '\r'), ('e', '\x1b'), (' ', ' '), ('"', '"'),
    ('/', '/'), ('\\', '\\'), ('N', '\u0085'), ('_', '\u00a0'), ('L', '\u2028'),
    ('P', '\u2029')].lookup letter

end ClusterLifecycle.Yaml
