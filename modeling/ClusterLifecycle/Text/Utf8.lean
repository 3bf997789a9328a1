/-!
Text as the bytes of its UTF-8 encoding, and bytes as text.
-/

namespace ClusterLifecycle.Text

def utf8 (text : List Char) : List UInt8 := text.flatMap String.utf8EncodeChar

/-- A character of which the first bytes have been read. -/
structure Unfinished where
  /-- How many bytes it needs still. -/
  owed : Nat
  /-- Where the next one lies. -/
  least : UInt8 := 0x80
  most : UInt8 := 0xbf
  /-- The bits that have been read. -/
  bits : Nat

namespace Unfinished

/-- The character that begins with this byte, if it is one of several. -/
def begin? (b : UInt8) : Option Unfinished :=
  let bits (least : UInt8) : Nat := (b - least).toNat
  if b < 0xc2 then none
  else if b < 0xe0 then some { owed := 1, bits := bits 0xc0 }
  else if b < 0xf0 then
    some { owed := 2, bits := bits 0xe0
           least := if b = 0xe0 then 0xa0 else 0x80, most := if b = 0xed then 0x9f else 0xbf }
  else if b < 0xf5 then
    some { owed := 3, bits := bits 0xf0
           least := if b = 0xf0 then 0x90 else 0x80, most := if b = 0xf4 then 0x8f else 0xbf }
  else none

/-- Reads a byte where a character begins: what it completes, and what it leaves unfinished. -/
def first (b : UInt8) : List (Option Char) × Option Unfinished :=
  if b < 0x80 then ([some (Char.ofNat b.toNat)], none)
  else match begin? b with
    | some u => ([], some u)
    | none => ([none], none)

/-- Reads a byte behind those of an unfinished character. One that cannot go on with it breaks it
off, and begins another. -/
def next (u : Unfinished) (b : UInt8) : List (Option Char) × Option Unfinished :=
  if u.least ≤ b ∧ b ≤ u.most then
    let bits := u.bits * 64 + (b - 0x80).toNat
    if u.owed ≤ 1 then ([some (Char.ofNat bits)], none) else ([], some { owed := u.owed - 1, bits })
  else (none :: (first b).1, (first b).2)

end Unfinished

/-- The characters that bytes stand for, with nothing in the place of bytes that stand for none. -/
def characters (unfinished : Option Unfinished) : List UInt8 → List (Option Char)
  | [] => if unfinished.isSome then [none] else []
  | b :: rest =>
    let (found, unfinished) := match unfinished with
      | none => Unfinished.first b
      | some u => u.next b
    found ++ characters unfinished rest

end ClusterLifecycle.Text
