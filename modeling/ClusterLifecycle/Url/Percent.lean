import ClusterLifecycle.Text.Digits
import ClusterLifecycle.Text.Utf8

/-!
Percent-encoding: characters as the bytes of their UTF-8, each written `%` and two digits. Every part
of a URL has its own set of characters that are escaped in it.
-/

namespace ClusterLifecycle.Url.Percent

open Text

def inControlSet (c : Char) : Bool := c.toNat < 0x20 || 0x7e < c.toNat

def inFragmentSet (c : Char) : Bool :=
  inControlSet c || [' ', '"', '<', '>', '\x60'].contains c

def inQuerySet (c : Char) : Bool := inControlSet c || [' ', '"', '#', '<', '>'].contains c

def inSpecialQuerySet (c : Char) : Bool := inQuerySet c || c = '\''

def inPathSet (c : Char) : Bool :=
  inQuerySet c || ['?', '^', '\x60', '\x7b', '\x7d'].contains c

def inUserinfoSet (c : Char) : Bool :=
  inPathSet c || ['/', ':', ';', '=', '@', '[', '\\', ']', '|'].contains c

def escape (c : Char) : List Char := (utf8 [c]).flatMap fun byte => '%' :: upperHex 2 byte.toNat

/-- Escapes the characters of a set. -/
def encode (inSet : Char → Bool) (text : List Char) : List Char :=
  text.flatMap fun c => if inSet c then escape c else [c]

/-- The bytes that a text stands for. A percent sign that no two digits follow stands for itself. -/
def decode : List Char → List UInt8
  | [] => []
  | '%' :: a :: b :: rest =>
    match number? 16 [a, b] with
    | some n => .ofNat n :: decode rest
    | none => utf8 ['%'] ++ decode (a :: b :: rest)
  | c :: rest => utf8 [c] ++ decode rest
termination_by text => text.length

end ClusterLifecycle.Url.Percent
