/-!
Digits: numbers as text in base ten and base sixteen, and the values that digits stand for.
-/

namespace ClusterLifecycle.Text

/-- The value of one digit in a base of at most sixteen; letters count from ten in either case. -/
def digitValue? (base : Nat) (c : Char) : Option Nat :=
  let value :=
    if '0' ≤ c ∧ c ≤ '9' then some (c.toNat - 48)
    else if 'a' ≤ c ∧ c ≤ 'f' then some (c.toNat - 87)
    else if 'A' ≤ c ∧ c ≤ 'F' then some (c.toNat - 55)
    else none
  value.filter (· < base)

def isDecimalDigit (c : Char) : Bool := '0' ≤ c && c ≤ '9'

/-- Lower case; numbers below sixteen only. -/
def hexDigit (n : Nat) : Char := Char.ofNat (if n < 10 then 48 + n else 87 + n)

/-- Upper case; numbers below sixteen only. -/
def upperHexDigit (n : Nat) : Char := Char.ofNat (if n < 10 then 48 + n else 55 + n)

/-- The last `width` hexadecimal digits of a number, upper case. -/
def upperHex : Nat → Nat → List Char
  | 0, _ => []
  | width + 1, n => upperHex width (n / 16) ++ [upperHexDigit (n % 16)]

/-- Reads digits after a number already read. -/
def numberFrom? (base : Nat) : Nat → List Char → Option Nat
  | n, [] => some n
  | n, c :: rest => (digitValue? base c).bind fun d => numberFrom? base (n * base + d) rest

/-- A number written with at least one digit and nothing else. -/
def number? (base : Nat) : List Char → Option Nat
  | [] => none
  | digits => numberFrom? base 0 digits

def decimal (n : Nat) : List Char := Nat.toDigits 10 n

/-- The last `width` decimal digits of a number. -/
def padded : Nat → Nat → List Char
  | 0, _ => []
  | width + 1, n => padded width (n / 10) ++ [hexDigit (n % 10)]

/-- What stands before the first `c` and what stands after it. -/
def splitAtFirst (c : Char) : List Char → Option (List Char × List Char)
  | [] => none
  | d :: rest =>
    if d = c then some ([], rest)
    else (splitAtFirst c rest).map fun (before, after) => (d :: before, after)

/-- What follows `start`, when the text begins with it. -/
def dropStart? : List Char → List Char → Option (List Char)
  | [], text => some text
  | _, [] => none
  | c :: start, d :: text => if c = d then dropStart? start text else none

/-- The text holds `part` somewhere. -/
def hasPart (part : List Char) : List Char → Bool
  | [] => part.isEmpty
  | c :: rest => (dropStart? part (c :: rest)).isSome || hasPart part rest

end ClusterLifecycle.Text
