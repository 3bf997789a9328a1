import ClusterLifecycle.Text.Digits
import ClusterLifecycle.Text.Double

/-!
What an unquoted word stands for: nothing, a truth value, a number, or else just its text.
-/

namespace ClusterLifecycle.Yaml

open Text

def isNull (word : List Char) : Bool :=
  word ∈ ["null".toList, "Null".toList, "NULL".toList, ['~']]

def isBool (word : List Char) : Bool :=
  word ∈ ["true".toList, "True".toList, "TRUE".toList,
    "false".toList, "False".toList, "FALSE".toList]

def withoutPlus : List Char → List Char
  | '+' :: rest => rest
  | word => word

/-- Several digits of which the first is a needless zero; such a word is no number. -/
def hasLeadingZero (word : List Char) : Bool :=
  let digits := match word with
    | '+' :: rest | '-' :: rest => rest
    | _ => word
  match digits with
  | '0' :: d :: rest => (d :: rest).all isDecimalDigit
  | _ => false

/-- The digits after `0x`, `0o` or `0b`, as a number. -/
def radixNumber? : List Char → Option Nat
  | '0' :: 'x' :: digits => number? 16 digits
  | '0' :: 'o' :: digits => number? 8 digits
  | '0' :: 'b' :: digits => number? 2 digits
  | _ => none

/-- A whole number that is not negative, below `bound`: decimal, or with a radix mark. -/
def natural? (bound : Nat) (word : List Char) : Option Nat :=
  let digits := withoutPlus word
  match (radixNumber? digits).filter (· < bound) with
  | some n => some n
  | none => if hasLeadingZero word then none else (number? 10 digits).filter (· < bound)

/-- A whole number with a radix mark that fits into 128 bits, with its sign if it is negative. -/
def isRadixNumber (word : List Char) : Bool :=
  match word with
  | '-' :: digits => (radixNumber? digits).any (· ≤ Nat.pow 2 127)
  | _ => (radixNumber? (withoutPlus word)).any (· < Nat.pow 2 128)

def isSpecialFloat (word : List Char) : Bool :=
  word ∈ [".nan".toList, ".NaN".toList, ".NAN".toList] ||
    word ∈ ["-.inf".toList, "-.Inf".toList, "-.INF".toList] ||
    withoutPlus word ∈ [".inf".toList, ".Inf".toList, ".INF".toList]

/-- The exponent of a decimal, with everything after it. -/
def exponent? : List Char → Option Int
  | [] => some 0
  | 'e' :: rest | 'E' :: rest =>
    match rest with
    | '-' :: digits => (number? 10 digits).map fun n => -(n : Int)
    | _ => (number? 10 (withoutPlus rest)).map fun n => (n : Int)
  | _ => none

/-- A decimal number with an optional fraction and exponent that a double can hold. -/
def isDecimal (word : List Char) : Bool :=
  let body := match word with
    | '-' :: rest | '+' :: rest => rest
    | _ => word
  let whole := body.takeWhile isDecimalDigit
  let (fraction, rest) := match body.dropWhile isDecimalDigit with
    | '.' :: after => (after.takeWhile isDecimalDigit, after.dropWhile isDecimalDigit)
    | after => ([], after)
  let digits := (whole ++ fraction).dropWhile (· = '0')
  match exponent? rest with
  | none => false
  | some exponent =>
    !(whole ++ fraction).isEmpty &&
      fitsDouble ((number? 10 digits).getD 0) digits.length (exponent - fraction.length)

def isFloat (word : List Char) : Bool := isSpecialFloat word || isDecimal word

/-- An unquoted word that would not be read as the text it is. -/
def isAmbiguous (word : List Char) : Bool :=
  word.isEmpty || isNull word || isBool word || isRadixNumber word || hasLeadingZero word ||
    isFloat word

end ClusterLifecycle.Yaml
