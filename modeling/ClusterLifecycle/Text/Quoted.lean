import ClusterLifecycle.Text.Digits
import ClusterLifecycle.Text.Hidden

/-!
Text in double quotes for people to read: whatever would not show is spelled out.
-/

namespace ClusterLifecycle.Text.Quoted

/-- Lower case, with no zeros in front. -/
def hex (n : Nat) : List Char := Nat.toDigits 16 n

def escaped (c : Char) : List Char :=
  if c = '"' || c = '\\' then ['\\', c]
  else if c = '\t' then ['\\', 't']
  else if c = '\n' then ['\\', 'n']
  else if c = '\r' then ['\\', 'r']
  else if c = '\x00' then ['\\', '0']
  else if isHidden c || isMark c then "\\u\x7b".toList ++ hex c.toNat ++ ['\x7d']
  else [c]

def encode (text : List Char) : List Char := '"' :: text.flatMap escaped ++ ['"']

end ClusterLifecycle.Text.Quoted
