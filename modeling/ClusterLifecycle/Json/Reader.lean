import ClusterLifecycle.Json.Written
import ClusterLifecycle.Text.Digits
import ClusterLifecycle.Text.Double
import ClusterLifecycle.Text.Utf8

/-!
Reading JSON from bytes, each of which stands as the character of its number: what is not in strings
is ASCII.
-/

namespace ClusterLifecycle.Json

open Text

def isBlank (c : Char) : Bool := c = ' ' || c = '\t' || c = '\n' || c = '\r'

def skipBlanks (text : List Char) : List Char := text.dropWhile isBlank

/-- A character that a letter names after a backslash. -/
def escape? (letter : Char) : Option Char :=
  [('"', '"'), ('\\', '\\'), ('/', '/'), ('b', '\x08'), ('f', '\x0c'), ('n', '\n'), ('r', '\r'),
    ('t', '\t')].lookup letter

/-- The content of a string behind its opening quote, its escapes as they stand, and the text behind
its closing quote. -/
def cutString : List Char → Option (List Char × List Char)
  | [] => none
  | '\\' :: 'u' :: a :: b :: c :: d :: rest =>
    if (number? 16 [a, b, c, d]).isSome then
      (cutString rest).map fun (s, after) => ('\\' :: 'u' :: a :: b :: c :: d :: s, after)
    else none
  | '\\' :: letter :: rest =>
    if (escape? letter).isSome then
      (cutString rest).map fun (s, after) => ('\\' :: letter :: s, after)
    else none
  | c :: rest =>
    if c = '"' then some ([], rest)
    else if c = '\\' || c.toNat < 0x20 then none
    else (cutString rest).map fun (s, after) => (c :: s, after)

/-- The bytes that the content of a string stands for. Two escaped units make one character where the
first one is the `high` half of a pair; neither half stands alone. -/
def unescape? (high : Option Nat) : List Char → Option (List UInt8)
  | [] => if high.isSome then none else some []
  | '\\' :: 'u' :: a :: b :: c :: d :: rest =>
    (number? 16 [a, b, c, d]).bind fun unit =>
      let isLow : Bool := 0xDC00 ≤ unit && unit < 0xE000
      match high with
      | some high =>
        if isLow then
          let code := 0x10000 + (high - 0xD800) * 0x400 + (unit - 0xDC00)
          (unescape? none rest).map (utf8 [Char.ofNat code] ++ ·)
        else none
      | none =>
        if isLow then none
        else if 0xD800 ≤ unit && unit < 0xDC00 then unescape? (some unit) rest
        else (unescape? none rest).map (utf8 [Char.ofNat unit] ++ ·)
  | '\\' :: letter :: rest =>
    if high.isSome then none
    else (escape? letter).bind fun c => (unescape? none rest).map (utf8 [c] ++ ·)
  | c :: rest =>
    if high.isSome then none else (unescape? none rest).map (UInt8.ofNat c.toNat :: ·)

/-- The text that the content of a string stands for. -/
def textOf? (content : List Char) : Option String :=
  (unescape? none content).bind fun bytes => String.fromUTF8? ⟨bytes.toArray⟩

/-- The exponent of a number, if it has one. -/
def readExponent : List Char → Option (Option Int × List Char)
  | 'e' :: rest | 'E' :: rest =>
    let (sign, rest) : Int × List Char := match rest with
      | '-' :: rest => (-1, rest)
      | '+' :: rest => (1, rest)
      | rest => (1, rest)
    (number? 10 (rest.takeWhile isDecimalDigit)).map fun n =>
      (some (sign * n), rest.dropWhile isDecimalDigit)
  | rest => some (none, rest)

/-- The fraction of a number, if it has one. -/
def readFraction : List Char → Option (List Char × List Char)
  | '.' :: rest =>
    let digits := rest.takeWhile isDecimalDigit
    if digits.isEmpty then none else some (digits, rest.dropWhile isDecimalDigit)
  | rest => some ([], rest)

def fits64 (negative : Bool) (n : Nat) : Bool :=
  if negative then 0 < n && n ≤ Nat.pow 2 63 else n < Nat.pow 2 64

/-- A number; one that is out of range has no value. -/
def readNumber (text : List Char) : Option (Option Number × List Char) := do
  let (negative, text) := match text with
    | '-' :: rest => (true, rest)
    | text => (false, text)
  let whole := text.takeWhile isDecimalDigit
  if whole.length > 1 && whole.head? = some '0' then none
  else
    let wholeValue ← number? 10 whole
    let (fraction, rest) ← readFraction (text.dropWhile isDecimalDigit)
    let (exponent, rest) ← readExponent rest
    if fraction.isEmpty && exponent.isNone && fits64 negative wholeValue then
      some (some (.whole (if negative then -wholeValue else wholeValue)), rest)
    else
      let digits := (whole ++ fraction).dropWhile (· = '0')
      let mantissa := (number? 10 digits).getD 0
      let scale := exponent.getD 0 - fraction.length
      let fits := fitsDouble mantissa digits.length scale
      some (if fits then some (.decimal negative mantissa scale) else none, rest)

mutual

/-- A value, after blanks. `fuel` bounds the work. -/
def readValue (fuel : Nat) (text : List Char) : Option (Written × List Char) :=
  match fuel with
  | 0 => none
  | fuel + 1 =>
    match skipBlanks text with
    | '"' :: rest => (cutString rest).map fun (s, rest) => (.string (textOf? s), rest)
    | '[' :: rest => (readItems fuel true rest).map fun (items, rest) => (.array items, rest)
    | '\x7b' :: rest => (readFields fuel true rest).map fun (fields, rest) => (.object fields, rest)
    | 't' :: 'r' :: 'u' :: 'e' :: rest => some (.bool true, rest)
    | 'f' :: 'a' :: 'l' :: 's' :: 'e' :: rest => some (.bool false, rest)
    | 'n' :: 'u' :: 'l' :: 'l' :: rest => some (.null, rest)
    | text => (readNumber text).map fun (n, rest) => (.number n, rest)

/-- Items behind the opening bracket, or behind an item. -/
def readItems (fuel : Nat) (first : Bool) (text : List Char) :
    Option (List Written × List Char) :=
  match fuel with
  | 0 => none
  | fuel + 1 => do
    let text := skipBlanks text
    if text.head? = some ']' then some ([], text.drop 1)
    else
      let text ← if first then some text else dropStart? [','] text
      let (item, rest) ← readValue fuel text
      let (items, rest) ← readItems fuel false rest
      some (item :: items, rest)

/-- Fields behind the opening brace, or behind a field. -/
def readFields (fuel : Nat) (first : Bool) (text : List Char) :
    Option (List (Option String × Written) × List Char) :=
  match fuel with
  | 0 => none
  | fuel + 1 => do
    let text := skipBlanks text
    if text.head? = some '\x7d' then some ([], text.drop 1)
    else
      let text ← if first then some text else dropStart? [','] text
      let text ← dropStart? ['"'] (skipBlanks text)
      let (name, rest) ← cutString text
      let rest ← dropStart? [':'] (skipBlanks rest)
      let (value, rest) ← readValue fuel rest
      let (fields, rest) ← readFields fuel false rest
      some ((textOf? name, value) :: fields, rest)

end

/-- The one value that is written in bytes. -/
def Written.read? (bytes : List UInt8) : Option Written :=
  let text := bytes.map fun b => Char.ofNat b.toNat
  match readValue (2 * text.length + 2) text with
  | some (value, rest) => if (skipBlanks rest).isEmpty then some value else none
  | none => none

def Written.ofText? (text : String) : Option Written := read? (utf8 text.toList)

/-- The value of a text. -/
def read? (text : String) : Option Json := (Written.ofText? text).bind (·.value? maxDepth)

end ClusterLifecycle.Json
