import ClusterLifecycle.Text.Digits

/-!
Cluster identities: 128 bits, written as 32 hexadecimal digits in five groups. The written form is
lower case and hyphenated; three other spellings are read.
-/

namespace ClusterLifecycle

open Text

structure Uuid where
  digits : List (Fin 16)
  digits_length : digits.length = 32 := by decide
deriving DecidableEq, Repr

namespace Uuid

def nil : Uuid := ⟨List.replicate 32 0, by decide⟩

/-- Hyphens stand before the ninth, thirteenth, seventeenth and twenty-first digit. -/
def toList (u : Uuid) : List Char :=
  let hex := u.digits.map fun d => hexDigit d.val
  hex.take 8 ++ '-' :: (hex.drop 8).take 4 ++ '-' :: (hex.drop 12).take 4 ++
    '-' :: (hex.drop 16).take 4 ++ '-' :: hex.drop 20

protected def toString (u : Uuid) : String := String.ofList u.toList

instance : ToString Uuid := ⟨Uuid.toString⟩

/-- One digit of either case. -/
def digit? (c : Char) : Option (Fin 16) :=
  (digitValue? 16 c).bind fun n => if h : n < 16 then some ⟨n, h⟩ else none

def ofDigits? (hex : List Char) : Option Uuid := do
  let digits ← hex.mapM digit?
  if h : digits.length = 32 then some ⟨digits, h⟩ else none

/-- Five groups of digits with a hyphen between each two. -/
def ofHyphenated? (text : List Char) : Option Uuid :=
  let group (start width : Nat) := (text.drop start).take width
  let hyphens := [8, 13, 18, 23].all fun i => text[i]? = some '-'
  if text.length = 36 ∧ hyphens then
    ofDigits? (group 0 8 ++ group 9 4 ++ group 14 4 ++ group 19 4 ++ group 24 12)
  else none

/-- Reads the hyphenated form, bare, in braces or after `urn:uuid:`, or 32 digits with no hyphen. -/
def ofList? (text : List Char) : Option Uuid :=
  if text.length = 32 then ofDigits? text
  else if text.length = 36 then ofHyphenated? text
  else if text.length = 38 ∧ text.head? = some '\x7b' ∧ text.getLast? = some '\x7d' then
    ofHyphenated? (text.drop 1).dropLast
  else (dropStart? "urn:uuid:".toList text).bind ofHyphenated?

def ofString? (text : String) : Option Uuid := ofList? text.toList

end Uuid

end ClusterLifecycle
