import ClusterLifecycle.Text.Digits
import ClusterLifecycle.Url.Domain

/-!
Numeric addresses of hosts, of 32 and of 128 bits, in all the forms they may be given in, and in the
one form they are written in.
-/

namespace ClusterLifecycle.Url

open Text Domain

/-- A number in an address: hexadecimal after `0x`, octal after another zero, else decimal. -/
def addressNumber? : List Char → Option Nat
  | [] => none
  | ['0'] => some 0
  | '0' :: 'x' :: rest | '0' :: 'X' :: rest => if rest.isEmpty then some 0 else number? 16 rest
  | '0' :: rest => number? 8 rest
  | part => number? 10 part

/-- The parts between dots; a dot at the end counts for nothing. -/
def addressParts (text : List Char) : List (List Char) :=
  let parts := splitAll '.' text
  if 1 < parts.length ∧ parts.getLast? = some [] then parts.dropLast else parts

/-- Whether a name has to be an address. -/
def endsInNumber (text : List Char) : Bool :=
  match (addressParts text).getLast? with
  | some last => (!last.isEmpty && last.all isDecimalDigit) || (addressNumber? last).isSome
  | none => false

namespace Address4

/-- Up to four parts; the last one fills all the bytes that the others leave. -/
def ofList? (text : List Char) : Option Nat := do
  let numbers ← (addressParts text).mapM addressNumber?
  let front := numbers.dropLast
  let last ← numbers.getLast?
  if numbers.length ≤ 4 && front.all (· < 256) && last < Nat.pow 256 (5 - numbers.length) then
    some (front.zipIdx.foldl (fun sum (n, i) => sum + n * Nat.pow 256 (3 - i)) last)
  else none

def toList (address : Nat) : List Char :=
  joinAll '.' ([3, 2, 1, 0].map fun i => decimal (address / Nat.pow 256 i % 256))

end Address4

namespace Address6

/-- A number of at most four digits. -/
def piece? (part : List Char) : Option Nat := if part.length ≤ 4 then number? 16 part else none

/-- A byte in decimal digits, with no zero in front. -/
def byte? (part : List Char) : Option Nat :=
  if part.length ≤ 3 ∧ (part.length = 1 ∨ part.head? ≠ some '0') then
    (number? 10 part).filter (· < 256)
  else none

/-- The last two pieces may be given as four bytes. -/
def bytes? (part : List Char) : Option (List Nat) := do
  let [a, b, c, d] ← (splitAll '.' part).mapM byte? | none
  some [a * 256 + b, c * 256 + d]

/-- Pieces between colons; nothing at all has none. -/
def pieces? (bytesAllowed : Bool) (text : List Char) : Option (List Nat) :=
  if text.isEmpty then some []
  else do
    let parts := splitAll ':' text
    let front ← parts.dropLast.mapM piece?
    let last ← parts.getLast?
    match piece? last with
    | some n => some (front ++ [n])
    | none => if bytesAllowed then (bytes? last).map (front ++ ·) else none

/-- What stands before the first two colons in a row, and what after. -/
def splitAtGap : List Char → Option (List Char × List Char)
  | ':' :: ':' :: rest => some ([], rest)
  | c :: rest => (splitAtGap rest).map fun (before, after) => (c :: before, after)
  | [] => none

/-- Eight pieces; one gap stands for at least one zero. -/
def ofList? (text : List Char) : Option (List Nat) := do
  match splitAtGap text with
  | none => (pieces? true text).filter (·.length = 8)
  | some (before, after) =>
    let before ← pieces? false before
    let after ← pieces? true after
    let given := before.length + after.length
    if given < 8 then some (before ++ List.replicate (8 - given) 0 ++ after) else none

/-- How many zeros stand in front. -/
def zeros (pieces : List Nat) : Nat := (pieces.takeWhile (· = 0)).length

/-- Where the longest run of zeros starts, and its length; the first of several. -/
def longestRun (pieces : List Nat) : Nat × Nat :=
  (List.range pieces.length).foldl (fun (start, length) i =>
    let n := zeros (pieces.drop i)
    if length < n then (i, n) else (start, length)) (0, 0)

def piecesToList (pieces : List Nat) : List Char :=
  joinAll ':' (pieces.map fun n => Nat.toDigits 16 n)

/-- The longest run of two zeros or more becomes a gap. -/
def toList (pieces : List Nat) : List Char :=
  let (start, length) := longestRun pieces
  if length < 2 then piecesToList pieces
  else piecesToList (pieces.take start) ++ ':' :: ':' :: piecesToList (pieces.drop (start + length))

end Address6

end ClusterLifecycle.Url
