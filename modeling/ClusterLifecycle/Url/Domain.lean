import ClusterLifecycle.Text.Digits
import ClusterLifecycle.Text.Hidden
import ClusterLifecycle.Text.Lowercase
import ClusterLifecycle.Url.Punycode

/-!
Domain names in ASCII. Names are compared in small letters; a label of other characters is written
`xn--` and its Punycode.
-/

namespace ClusterLifecycle.Url

/-- How domain names are written in ASCII. Of names that are not plain ASCII the tables of Unicode
decide. -/
class Naming where
  /-- The name in ASCII, if it is one. -/
  toAscii? (name : List Char) : Option (List Char)

/-! ### Names with the tables at hand

They tell small letters, marks and hidden characters. Normal forms, most compatibility forms, joiners
and directions of writing are not looked at. -/

namespace Domain

open Text

def within (runs : List (Nat × Nat)) (c : Char) : Bool :=
  runs.any fun (first, last) => first ≤ c.toNat && c.toNat ≤ last

/-- Characters that a name is read without. -/
def ignoredRuns : List (Nat × Nat) := [
    (0xad, 0xad), (0x34f, 0x34f), (0x115f, 0x1160), (0x17b4, 0x17b5), (0x180b, 0x180f),
    (0x200b, 0x200b), (0x2060, 0x2064), (0x206a, 0x206f), (0x3164, 0x3164), (0xfe00, 0xfe0f),
    (0xfeff, 0xfeff), (0xffa0, 0xffa0), (0x1bca0, 0x1bca3), (0x1d173, 0x1d17a),
    (0xe0100, 0xe01ef)]

/-- Compatibility forms of a blank, or of a character that no host may have. -/
def separatorRuns : List (Nat × Nat) := [
    (0xa0, 0xa0), (0xa8, 0xa8), (0xaf, 0xaf), (0xb4, 0xb4), (0xb8, 0xb8), (0x2d8, 0x2dd),
    (0x37a, 0x37a), (0x384, 0x385), (0x1fbd, 0x1fbd), (0x1fbf, 0x1fc1), (0x1fcd, 0x1fcf),
    (0x1fdd, 0x1fdf), (0x1fed, 0x1fee), (0x1ffd, 0x1ffe), (0x2000, 0x200a), (0x2017, 0x2017),
    (0x202f, 0x202f), (0x203e, 0x203e), (0x2047, 0x2049), (0x205f, 0x205f), (0x2100, 0x2101),
    (0x2105, 0x2106), (0x2a74, 0x2a74), (0x3000, 0x3000), (0x309b, 0x309c), (0xfc5e, 0xfc63),
    (0xfdfa, 0xfdfb), (0xfe13, 0xfe13), (0xfe16, 0xfe16), (0xfe47, 0xfe4c), (0xfe55, 0xfe56),
    (0xfe5f, 0xfe5f), (0xfe64, 0xfe65), (0xfe68, 0xfe68), (0xfe6a, 0xfe6b), (0xfe70, 0xfe70),
    (0xfe72, 0xfe72), (0xfe74, 0xfe74), (0xfe76, 0xfe76), (0xfe78, 0xfe78), (0xfe7a, 0xfe7a),
    (0xfe7c, 0xfe7c), (0xfe7e, 0xfe7e), (0xffe3, 0xffe3)]

def isFullStop (c : Char) : Bool := c = '.' || c = '\u3002' || c = '\uff0e' || c = '\uff61'

/-- A character as names are compared: full stops of other scripts end a label, and forms of the
width of an ideograph stand for ASCII. -/
def fold (c : Char) : Char :=
  if isFullStop c then '.'
  else if 0xff01 ≤ c.toNat ∧ c.toNat ≤ 0xff5e then smallLetter (Char.ofNat (c.toNat - 0xfee0))
  else smallLetter c

def isAscii (text : List Char) : Bool := text.all fun c => c.toNat < 128

/-- A label that is not ASCII: no character is hidden, joins others or gives a separator, and the
first is not a mark. -/
def isLabel (label : List Char) : Bool :=
  !(label.head?.any isMark) && label.all fun c =>
    isMark c || !(isHidden c || within separatorRuns c || within ignoredRuns c) &&
      c ≠ '\ufffc' && c ≠ '\ufffd'

def acePrefix : List Char := ['x', 'n', '-', '-']

/-- The ASCII form of a label of folded characters. -/
def label? (label : List Char) : Option (List Char) :=
  if isAscii label then
    match dropStart? acePrefix label with
    | none => some label
    | some code => do
      let decoded ← Punycode.decode code
      if !isAscii decoded && isLabel decoded && decoded.map fold = decoded then some label else none
  else if isLabel label && (dropStart? acePrefix label).isNone then
    some (acePrefix ++ Punycode.encode label)
  else none

def splitAll (separator : Char) : List Char → List (List Char)
  | [] => [[]]
  | c :: rest =>
    if c = separator then [] :: splitAll separator rest
    else match splitAll separator rest with
      | [] => [[c]]
      | first :: more => (c :: first) :: more

def joinAll (separator : Char) : List (List Char) → List Char
  | [] => []
  | [part] => part
  | part :: rest => part ++ separator :: joinAll separator rest

def toAscii? (name : List Char) : Option (List Char) := do
  let folded := (name.filter fun c => !within ignoredRuns c).map fold
  let labels ← (splitAll '.' folded).mapM label?
  some (joinAll '.' labels)

instance : Naming := ⟨toAscii?⟩

end Domain

end ClusterLifecycle.Url
