/-!
Punycode: a label of any characters in letters, digits and hyphens. Its ASCII characters come first;
the others follow in ascending order, each as the distance from the one before, in digits of base 36
whose weights adapt to the distances seen.
-/

namespace ClusterLifecycle.Url.Punycode

/-- Letters stand for the numbers up to 25, digits for those from 26. -/
def digit (n : Nat) : Char := Char.ofNat (if n < 26 then 97 + n else 22 + n)

def digitValue? (c : Char) : Option Nat :=
  let n := c.toNat
  if 97 ≤ n ∧ n ≤ 122 then some (n - 97)
  else if 65 ≤ n ∧ n ≤ 90 then some (n - 65)
  else if 48 ≤ n ∧ n ≤ 57 then some (n - 22)
  else none

/-- Up to which digit a number ends at a place. -/
def threshold (place bias : Nat) : Nat := min 26 (max 1 (place - bias))

theorem threshold_pos (place bias : Nat) : 0 < threshold place bias := by
  unfold threshold; omega

/-- Divides a distance down, counting the places that it takes. -/
def scale (delta places : Nat) : Nat :=
  if 455 < delta then scale (delta / 35) (places + 36)
  else places + 36 * delta / (delta + 38)
termination_by delta

/-- The bias after a distance, with `count` characters in place. -/
def adapt (delta count : Nat) (first : Bool) : Nat :=
  let delta := if first then delta / 700 else delta / 2
  scale (delta + delta / count) 0

/-- A number in digits, the lowest first. -/
def encodeNumber (bias place n : Nat) : List Char :=
  let t := threshold place bias
  if h : n < t then [digit n]
  else
    have : (n - t) / (36 - t) < n :=
      Nat.lt_of_le_of_lt (Nat.div_le_self ..)
        (Nat.sub_lt (Nat.lt_of_lt_of_le (threshold_pos place bias) (Nat.le_of_not_lt h))
          (threshold_pos place bias))
    digit (t + (n - t) % (36 - t)) :: encodeNumber bias (place + 36) ((n - t) / (36 - t))
termination_by n

/-- How far an encoding has come. -/
structure Progress where
  output : List Char
  delta : Nat := 0
  bias : Nat := 72
  /-- How many characters are in place. -/
  placed : Nat

/-- Passes one character on the round that puts `next` in place; `basic` counts the ASCII ones. -/
def Progress.pass (basic next : Nat) (p : Progress) (c : Char) : Progress :=
  if c.toNat < next then { p with delta := p.delta + 1 }
  else if c.toNat = next then
    { output := p.output ++ encodeNumber p.bias 36 p.delta
      bias := adapt p.delta (p.placed + 1) (p.placed = basic)
      placed := p.placed + 1 }
  else p

/-- One round for each character that is not ASCII; `done` is the least code not yet looked at. -/
def rounds (label : List Char) (basic : Nat) : (done : Nat) → List Nat → Progress → Progress
  | _, [], p => p
  | done, next :: rest, p =>
    let p := { p with delta := p.delta + (next - done) * (p.placed + 1) }
    let p := label.foldl (Progress.pass basic next) p
    rounds label basic (next + 1) rest { p with delta := p.delta + 1 }

def insertOnce (n : Nat) : List Nat → List Nat
  | [] => [n]
  | m :: rest =>
    if n < m then n :: m :: rest else if n = m then m :: rest else m :: insertOnce n rest

def encode (label : List Char) : List Char :=
  let basic := label.filter fun c => c.toNat < 128
  let codes := ((label.filter fun c => 128 ≤ c.toNat).map Char.toNat).foldr insertOnce []
  let front := if basic.isEmpty then [] else basic ++ ['-']
  (rounds label basic.length 128 codes { output := front, placed := basic.length }).output

/-- Reads a number; `weight` is that of its next digit. -/
def decodeNumber (bias : Nat) : (place weight value : Nat) → List Char → Option (Nat × List Char)
  | _, _, _, [] => none
  | place, weight, value, c :: rest => do
    let d ← digitValue? c
    let value := value + d * weight
    let t := threshold place bias
    if value ≥ Nat.pow 2 32 then none
    else if d < t then some (value, rest)
    else decodeNumber bias (place + 36) (weight * (36 - t)) value rest

/-- Puts characters into `done`, one for each number; `position` is where the last one went, and zero
before the first. -/
def place : (fuel position code bias : Nat) → List Char → List Char → Option (List Char)
  | 0, _, _, _, _, _ => none
  | _ + 1, _, _, _, done, [] => some done
  | fuel + 1, position, code, bias, done, text => do
    let (delta, rest) ← decodeNumber bias 36 1 0 text
    let count := done.length + 1
    let code := code + (position + delta) / count
    let next := (position + delta) % count
    if code.isValidChar then
      place fuel (next + 1) code (adapt delta count (position = 0))
        (done.take next ++ Char.ofNat code :: done.drop next) rest
    else none

/-- What stands before the last hyphen is ASCII as it is; with nothing before it, a hyphen divides
nothing. -/
def decode (text : List Char) : Option (List Char) :=
  if text.all fun c => c.toNat < 128 then
    let tail := (text.reverse.takeWhile (· ≠ '-')).reverse
    let basic := (text.take (text.length - tail.length)).dropLast
    place (text.length + 1) 0 128 72 basic (if basic.isEmpty then text else tail)
  else none

end ClusterLifecycle.Url.Punycode
