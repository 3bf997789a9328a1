import ClusterLifecycle.Text.Digits
import ClusterLifecycle.Yaml.Token

/-!
Reading anchors, tags and directives.
-/

namespace ClusterLifecycle.Yaml

open Text

/-- A name of one or more word characters, ended by a blank, a line end or an indicator. -/
def readName (text : List Char) : Option (List Char × List Char) :=
  let name := text.takeWhile isWordChar
  let rest := text.dropWhile isWordChar
  let ended := endsWord rest ||
    rest.head?.any (· ∈ ['?', ':', ',', ']', '\x7d', '%', '@', '\x60'])
  if name.isEmpty || !ended then none else some (name, rest)

/-- `!`, `!!` or `!name!`; anything else after `!` is no handle, and its word characters are
given with it. -/
def readHandle : List Char → Option (List Char × List Char)
  | '!' :: rest =>
    let name := rest.takeWhile isWordChar
    match rest.dropWhile isWordChar with
    | '!' :: after => some ('!' :: name ++ ['!'], after)
    | after => some ('!' :: name, after)
  | _ => none

/-- How many octets a character of UTF-8 has, by its first. -/
def octetCount? (first : Nat) : Option Nat :=
  if first < 0x80 then some 1
  else if 0xC0 ≤ first ∧ first < 0xE0 then some 2
  else if 0xE0 ≤ first ∧ first < 0xF0 then some 3
  else if 0xF0 ≤ first ∧ first < 0xF8 then some 4
  else none

def isUriChar (c : Char) : Bool :=
  isWordChar c ||
    c ∈ [';', '/', '?', ':', '@', '&', '=', '+', '$', '.', '!', '~', '*', '\'', '(', ')']

/-- The rest of a tag. Inside `!<…>` it may hold commas and brackets. Octets behind percent signs
have to form UTF-8; `owed` of them are still to come. A character beyond ASCII is only checked, not
kept: no tag with a meaning here has one. -/
def readUri (verbatim : Bool) (owed : Nat) : List Char → Option (List Char × List Char)
  | [] => if owed = 0 then some ([], []) else none
  | '%' :: a :: b :: rest =>
    (number? 16 [a, b]).bind fun octet =>
      if owed = 0 then
        (octetCount? octet).bind fun count =>
          (readUri verbatim (count - 1) rest).map fun (uri, after) =>
            ((if count = 1 then Char.ofNat octet else '\ufffd') :: uri, after)
      else if 0x80 ≤ octet ∧ octet < 0xC0 then readUri verbatim (owed - 1) rest
      else none
  | '%' :: _ => none
  | c :: rest =>
    if owed > 0 then none
    else if isUriChar c || (verbatim && c ∈ [',', '[', ']']) then
      (readUri verbatim 0 rest).map fun (uri, after) => (c :: uri, after)
    else some ([], c :: rest)

/-- A tag as its handle, which is empty for a whole tag, and the rest of it. -/
def readTag (flow : Bool) (text : List Char) : Option ((List Char × List Char) × List Char) := do
  let (handle, suffix, rest) ← match text with
    | '!' :: '<' :: inner => do
      let (uri, rest) ← readUri true 0 inner
      let rest ← dropStart? ['>'] rest
      if uri.isEmpty then none else pure ([], uri, rest)
    | _ => do
      let (handle, after) ← readHandle text
      if handle.length ≥ 2 ∧ handle.getLast? = some '!' then
        let (uri, rest) ← readUri false 0 after
        if uri.isEmpty then none else pure (handle, uri, rest)
      else
        let (uri, rest) ← readUri false 0 after
        let suffix := handle.drop 1 ++ uri
        pure (if suffix.isEmpty then ([], ['!'], rest) else (['!'], suffix, rest))
  let ended := endsWord rest || (flow && rest.head? = some ',')
  if ended then some ((handle, suffix), rest) else none

def readNumber (text : List Char) : Option (Nat × List Char) :=
  let digits := text.takeWhile isDecimalDigit
  if digits.length > 9 then none
  else (number? 10 digits).map fun n => (n, text.drop digits.length)

/-- A directive, behind its percent sign. -/
def readDirective (text : List Char) : Option (Token × List Char) := do
  let name := text.takeWhile isWordChar
  let rest := text.dropWhile isWordChar
  if !endsWord rest then none
  else if name = "YAML".toList then
    let (major, rest) ← readNumber (rest.dropWhile isBlank)
    let (minor, rest) ← readNumber (← dropStart? ['.'] rest)
    pure (.version major minor, rest)
  else if name = "TAG".toList then
    let (handle, rest) ← readHandle (rest.dropWhile isBlank)
    let isHandle := handle = ['!'] ∨ (handle.length ≥ 2 ∧ handle.getLast? = some '!')
    if ¬ isHandle ∨ ¬ rest.head?.any isBlank then none
    else
      let (uri, rest) ← readUri true 0 (rest.dropWhile isBlank)
      if uri.isEmpty ∨ !endsWord rest then none
      else pure (.handle (String.ofList handle) (String.ofList uri), rest)
  else none

end ClusterLifecycle.Yaml
