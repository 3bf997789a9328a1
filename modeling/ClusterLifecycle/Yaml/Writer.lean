import ClusterLifecycle.Yaml.Character
import ClusterLifecycle.Yaml.Plain
import ClusterLifecycle.Yaml.Value

/-!
YAML as text: block style, indented by two, no line longer or shorter than its content. A text is
left plain where that reads back as the same text; it is quoted with single quotes where the plain
form would mean something else, written as a block where it has several lines, and in double quotes
where only escapes keep it whole.
-/

namespace ClusterLifecycle.Yaml

open Text

/-- Each character of a text with the one after it. -/
def adjacent (s : List Char) : List (Char × Char) := s.zip (s.drop 1)

def hasSpaceBeforeBreak (s : List Char) : Bool :=
  (adjacent s).any fun (a, b) => a = ' ' && isBreak b

def hasSpaceAfterBreak (s : List Char) : Bool :=
  (adjacent s).any fun (a, b) => isBreak a && b = ' '

def isSpaceOrBreak (c : Char) : Bool := c = ' ' || isBreak c

/-- Has a character, or a blank at the end of a line, that only an escape can write. -/
def needsEscapes (s : List Char) : Bool :=
  s.any (fun c => !isPrintable c) || hasSpaceBeforeBreak s

/-- Indicators that mean something wherever they open a plain text. -/
def opensOtherwise (c : Char) : Bool :=
  c ∈ ['#', ',', '[', ']', '\x7b', '\x7d', '&', '*', '!', '|', '>', '\'', '"', '%', '@', '\x60']

/-- Has an indicator inside: a colon that ends a word, or a comment mark that starts one. -/
def hasInnerIndicator : List Char → Bool
  | [] => false
  | c :: rest =>
    (c = ':' && endsWord rest) || ((isBlank c || isBreak c) && rest.head? = some '#') ||
      hasInnerIndicator rest

/-- Has an indicator that a plain text cannot hold in block context. -/
def hasIndicator (s : List Char) : Bool :=
  match s with
  | [] => false
  | c :: rest =>
    opensOtherwise c || ((c = '?' || c = '-') && endsWord rest) || hasInnerIndicator s ||
      ['-', '-', '-'].isPrefixOf s || ['.', '.', '.'].isPrefixOf s

def plainAllowed (s : List Char) : Bool :=
  !hasIndicator s && !needsEscapes s && !s.any isBreak &&
    !s.head?.any isSpaceOrBreak && !s.getLast?.any isSpaceOrBreak

def singleAllowed (s : List Char) : Bool := !needsEscapes s && !hasSpaceAfterBreak s

def blockAllowed (s : List Char) : Bool := !needsEscapes s && s.getLast? ≠ some ' '

inductive Style where
  | plain | single | double | block
deriving DecidableEq, Repr

def styleOf (s : List Char) : Style :=
  if s.contains '\n' then (if blockAllowed s then .block else .double)
  else if !isAmbiguous s && plainAllowed s then .plain
  else if singleAllowed s then .single
  else .double

def spaces (n : Nat) : List Char := List.replicate n ' '

/-- A line break inside single quotes is followed by the indentation. -/
def singleBody (indent : Nat) (atBreak : Bool) : List Char → List Char
  | [] => if atBreak then spaces indent else []
  | c :: rest =>
    if isBreak c then c :: singleBody indent true rest
    else
      (if atBreak then spaces indent else []) ++ (if c = '\'' then ['\'', '\''] else [c]) ++
        singleBody indent false rest

/-- The letter that names a character after a backslash. -/
def escapeLetter? (c : Char) : Option Char :=
  [('\x00', '0'), ('\x07', 'a'), ('\x08', 'b'), ('\t', 't'), ('\n', 'n'), ('\x0b', 'v'),
    ('\x0c', 'f'), ('\r', 'r'), ('\x1b', 'e'), ('"', '"'), ('\\', '\\'), ('\u0085', 'N'),
    ('\u00a0', '_'), ('\u2028', 'L'), ('\u2029', 'P')].lookup c

def escaped (c : Char) : List Char :=
  '\\' :: match escapeLetter? c with
  | some letter => [letter]
  | none =>
    if c.toNat ≤ 0xFF then 'x' :: upperHex 2 c.toNat
    else if c.toNat ≤ 0xFFFF then 'u' :: upperHex 4 c.toNat
    else 'U' :: upperHex 8 c.toNat

def doubleBody (s : List Char) : List Char :=
  s.flatMap fun c =>
    if !isPrintable c || isBreak c || c = '"' || c = '\\' then escaped c else [c]

/-- The lines of a block, each that is not empty behind the indentation, and all of them ended. -/
def blockBody (indent : Nat) (atStart : Bool) : List Char → List Char
  | [] => if atStart then [] else ['\n']
  | c :: rest =>
    if isBreak c then c :: blockBody indent true rest
    else (if atStart then spaces indent else []) ++ c :: blockBody indent false rest

/-- How a block ends: with no line end, with one, or with more or nothing else. -/
def chomping (s : List Char) : List Char :=
  match s.reverse with
  | [] => ['-']
  | c :: before =>
    if !isBreak c then ['-']
    else match before with
      | [] => ['+']
      | d :: _ => if isBreak d then ['+'] else []

/-- The width of the indentation is given where the first line does not show it. -/
def indentHint (s : List Char) : List Char :=
  if s.head?.any isSpaceOrBreak then ['2'] else []

/-- A text that follows on the same line, to the end of its last line; further lines have the
given indentation. -/
def scalarLines (indent : Nat) (s : List Char) : List Char :=
  match styleOf s with
  | .plain => s ++ ['\n']
  | .single => '\'' :: singleBody indent false s ++ ['\'', '\n']
  | .double => '"' :: doubleBody s ++ ['"', '\n']
  | .block => '|' :: indentHint s ++ chomping s ++ '\n' :: blockBody indent true s

def byteLength (s : List Char) : Nat := s.foldr (fun c n => c.utf8Size + n) 0

/-- A short text of one line can be a key by itself; any other key is marked. -/
def isSimpleKey (s : List Char) : Bool := !s.any isBreak && byteLength s ≤ 128

/-- A key up to and with its colon. -/
def keyText (indent : Nat) (key : List Char) : List Char :=
  if isSimpleKey key then (scalarLines (indent + 2) key).dropLast ++ [':']
  else '?' :: ' ' :: scalarLines (indent + 2) key ++ spaces indent ++ [':']

mutual

/-- A value behind the colon of its key, where keys have the given indentation. -/
def afterColon (indent : Nat) : Value → List Char
  | .text s => ' ' :: scalarLines (indent + 2) s.toList
  | .word s => ' ' :: s.toList ++ ['\n']
  | .sequence [] => [' ', '[', ']', '\n']
  | .sequence (x :: xs) => '\n' :: spaces indent ++ itemLines indent (x :: xs)
  | .mapping [] => [' ', '\x7b', '\x7d', '\n']
  | .mapping (f :: fs) => '\n' :: spaces (indent + 2) ++ fieldLines (indent + 2) (f :: fs)

/-- A value behind the dash of its item. -/
def afterDash (indent : Nat) : Value → List Char
  | .text s => ' ' :: scalarLines (indent + 2) s.toList
  | .word s => ' ' :: s.toList ++ ['\n']
  | .sequence [] => [' ', '[', ']', '\n']
  | .sequence (x :: xs) => ' ' :: itemLines (indent + 2) (x :: xs)
  | .mapping [] => [' ', '\x7b', '\x7d', '\n']
  | .mapping (f :: fs) => ' ' :: fieldLines (indent + 2) (f :: fs)

/-- Items one after the other; the indentation of the first is already there. -/
def itemLines (indent : Nat) : List Value → List Char
  | [] => []
  | x :: rest =>
    '-' :: afterDash indent x ++
      (if rest.isEmpty then [] else spaces indent) ++ itemLines indent rest

/-- Fields one after the other; the indentation of the first is already there. -/
def fieldLines (indent : Nat) : List (String × Value) → List Char
  | [] => []
  | (key, value) :: rest =>
    keyText indent key.toList ++ afterColon indent value ++
      (if rest.isEmpty then [] else spaces indent) ++ fieldLines indent rest

end

/-- A whole document. -/
def render (v : Value) : String :=
  String.ofList <| match v with
  | .mapping (f :: fs) => fieldLines 0 (f :: fs)
  | .sequence (x :: xs) => itemLines 0 (x :: xs)
  | v => (afterColon 0 v).drop 1

end ClusterLifecycle.Yaml
