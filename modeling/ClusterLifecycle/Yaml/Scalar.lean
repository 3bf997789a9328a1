import ClusterLifecycle.Text.Digits
import ClusterLifecycle.Yaml.Token

/-!
Reading texts: quoted, plain, or as a block of lines. Each reader starts behind what opened the text
and gives none where the text is broken off or holds what it must not.
-/

namespace ClusterLifecycle.Yaml

open Text

/-- The character with the code that the digits give in base sixteen. -/
def coded? (digits : List Char) : Option Char :=
  (number? 16 digits).bind fun n => if n.isValidChar then some (Char.ofNat n) else none

/-- Single quotes: a quote inside is written twice. -/
def readSingle (gap : Gap) (p : Position) : List Char → Option Taken
  | [] => none
  | c :: rest =>
    if isBreak c then readSingle (gap.addBreak c) p.nextLine rest
    else if isBlank c then readSingle (gap.addBlank c) p.next rest
    else if p.column = 0 && isMarker (c :: rest) then none
    else if c = '\'' then
      match rest with
      | '\'' :: rest =>
        (readSingle .none (p.skip 2) rest).map (·.behind (gap.text ++ ['\'']))
      | _ => some { text := gap.text, rest, position := p.next }
    else (readSingle .none p.next rest).map (·.behind (gap.text ++ [c]))

theorem readSingle_break {gap : Gap} {p : Position} {c : Char} {rest : List Char}
    (h : isBreak c = true) :
    readSingle gap p (c :: rest) = readSingle (gap.addBreak c) p.nextLine rest := by
  rw [readSingle.eq_def]
  simp [h]

/-- Double quotes: a backslash opens an escape. -/
def readDouble (gap : Gap) (p : Position) : List Char → Option Taken
  | [] => none
  | c :: rest =>
    if isBreak c then readDouble (gap.addBreak c) p.nextLine rest
    else if isBlank c then readDouble (gap.addBlank c) p.next rest
    else if p.column = 0 && isMarker (c :: rest) then none
    else if c = '"' then some { text := gap.text, rest, position := p.next }
    else if c = '\\' then
      match rest with
      | 'x' :: a :: b :: rest =>
        (coded? [a, b]).bind fun e =>
          (readDouble .none (p.skip 4) rest).map (·.behind (gap.text ++ [e]))
      | 'u' :: a :: b :: c :: d :: rest =>
        (coded? [a, b, c, d]).bind fun e =>
          (readDouble .none (p.skip 6) rest).map (·.behind (gap.text ++ [e]))
      | 'U' :: a :: b :: c :: d :: a' :: b' :: c' :: d' :: rest =>
        (coded? [a, b, c, d, a', b', c', d']).bind fun e =>
          (readDouble .none (p.skip 10) rest).map (·.behind (gap.text ++ [e]))
      | letter :: rest =>
        if isBreak letter then
          (readDouble (.breaks none []) p.next.nextLine rest).map (·.behind gap.text)
        else
          (escapeOf? letter).bind fun e =>
            (readDouble .none (p.skip 2) rest).map (·.behind (gap.text ++ [e]))
      | [] => none
    else (readDouble .none p.next rest).map (·.behind (gap.text ++ [c]))

theorem readDouble_blank {gap : Gap} {p : Position} {c : Char} {rest : List Char}
    (h : isBlank c = true) :
    readDouble gap p (c :: rest) = readDouble (gap.addBlank c) p.next rest := by
  rw [readDouble.eq_def]
  simp [h, isBreak_of_isBlank h]

/-- A flow indicator that ends a plain text inside brackets. -/
def endsInFlow (c : Char) : Bool := c ∈ [',', '[', ']', '\x7b', '\x7d']

/-- No quotes: the text ends before a comment, a colon that ends a word, a marker, and a line that
is not indented far enough; inside brackets also before a comma or bracket. -/
def readPlain (flow : Bool) (indent : Nat) (gap : Gap) (p : Position) : List Char → Option Taken
  | [] => some { text := [], rest := [], position := p, atBreak := gap.hasBreak }
  | c :: rest =>
    let stop := some { text := [], rest := c :: rest, position := p, atBreak := gap.hasBreak }
    if isBreak c then readPlain flow indent (gap.addBreak c) p.nextLine rest
    else if isBlank c then
      if gap.hasBreak && p.column < indent && c = '\t' then none
      else readPlain flow indent (gap.addBlank c) p.next rest
    else if gap ≠ .none && ((!flow && p.column < indent) || c = '#' ||
        (p.column = 0 && isMarker (c :: rest))) then stop
    else if flow && c = ':' && rest.head?.any (fun d => d = '?' || endsInFlow d) then none
    else if (c = ':' && endsWord rest) || (flow && endsInFlow c) then stop
    else (readPlain flow indent .none p.next rest).map (·.behind (gap.text ++ [c]))

inductive Chomping where
  /-- The last line break is dropped. -/
  | strip
  /-- One line break is left. -/
  | clip
  /-- All line breaks are left. -/
  | keep
deriving DecidableEq, Repr

/-- A block while it is read. -/
structure Block where
  /-- Line breaks stay as they are; a folded block makes them spaces. -/
  literal : Bool
  chomping : Chomping
  /-- The indentation is at least this. -/
  least : Nat
  /-- The indentation, or zero before it is known. -/
  indent : Nat
  /-- The longest run of spaces in front of the first line. -/
  widest : Nat := 0
  /-- The end of the last line with text. -/
  lineEnd : List Char := []
  /-- Empty lines since then, the last one first. -/
  emptyLines : List Char := []
  /-- The last line with text starts with a blank. -/
  startsBlank : Bool := false

namespace Block

/-- What comes between the last line with text and one that starts with `c`. -/
def joint (b : Block) (c : Char) : List Char :=
  if !b.literal && b.lineEnd = ['\n'] && !b.startsBlank && !isBlank c then
    (if b.emptyLines.isEmpty then [' '] else []) ++ b.emptyLines.reverse
  else b.lineEnd ++ b.emptyLines.reverse

/-- What is left of the line breaks at the end. -/
def tail (b : Block) : List Char :=
  (if b.chomping = .strip then [] else b.lineEnd) ++
    (if b.chomping = .keep then b.emptyLines.reverse else [])

/-- Reads in a line of text, or between such lines. -/
def read (b : Block) (inLine : Bool) (p : Position) : List Char → Option Taken
  | [] => some { text := b.tail, rest := [], position := p }
  | c :: rest =>
    if inLine then
      if isBreak c then read { b with lineEnd := [c], emptyLines := [] } false p.nextLine rest
      else (read b true p.next rest).map (·.behind [c])
    else
      let inMargin := b.indent = 0 || p.column < b.indent
      if inMargin && c = ' ' then read b false p.next rest
      else if inMargin && c = '\t' then none
      else
        let widest := max b.widest p.column
        if isBreak c then
          read { b with widest, emptyLines := c :: b.emptyLines } false p.nextLine rest
        else
          let indent := if b.indent = 0 then max widest b.least else b.indent
          if p.column = indent then
            let inner := { b with
              indent, lineEnd := [], emptyLines := [], startsBlank := isBlank c }
            (read inner true p.next rest).map (·.behind (b.joint c ++ [c]))
          else some { text := b.tail, rest := c :: rest, position := p }

end Block

/-- The marks behind the one that opens a block, in either order: how it ends, and how much deeper
than its parent it is. -/
def blockMarks : List Char → Option (Chomping × Nat × List Char)
  | '+' :: rest => (depth rest).map fun (n, rest) => (.keep, n, rest)
  | '-' :: rest => (depth rest).map fun (n, rest) => (.strip, n, rest)
  | text => (depth text).map fun (n, rest) =>
      match rest with
      | '+' :: after => (.keep, n, after)
      | '-' :: after => (.strip, n, after)
      | _ => (.clip, n, rest)
where
  depth : List Char → Option (Nat × List Char)
    | '0' :: _ => none
    | c :: rest => some (if isDecimalDigit c then (c.toNat - 48, rest) else (0, c :: rest))
    | [] => some (0, [])

/-- Only blanks and a comment are left of the line; gives the next line, if there is one. -/
def restOfLine : List Char → Option (List Char × Bool)
  | text =>
    let text := text.dropWhile isBlank
    let text := if text.head? = some '#' then text.dropWhile (!isBreak ·) else text
    match text with
    | [] => some ([], false)
    | c :: rest => if isBreak c then some (rest, true) else none

/-- A block inside a parent with the given indentation; `-1` stands for no parent. -/
def readBlock (literal : Bool) (parent : Int) (p : Position) (text : List Char) :
    Option Taken := do
  let (chomping, depth, rest) ← blockMarks text
  let (rest, onNextLine) ← restOfLine rest
  let block : Block :=
    { literal, chomping
      least := max (parent + 1).toNat 1
      indent := if depth = 0 then 0 else (max parent 0).toNat + depth }
  block.read false (if onNextLine then p.nextLine else p) rest

end ClusterLifecycle.Yaml
