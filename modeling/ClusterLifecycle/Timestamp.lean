import ClusterLifecycle.Text.Blank
import ClusterLifecycle.Text.Digits

/-!
Points in time, to the nanosecond, in UTC. They are written in the form of RFC 3339 that ends in
`Z`; reading also takes offsets, blanks between the parts and short numbers, and turns every
reading into UTC.
-/

namespace ClusterLifecycle

open Text

namespace Calendar

def isLeapYear (year : Int) : Bool := year % 4 = 0 && (year % 100 ≠ 0 || year % 400 = 0)

def daysInMonth (year : Int) (month : Nat) : Nat :=
  if month = 2 then (if isLeapYear year then 29 else 28)
  else if month ∈ [4, 6, 9, 11] then 30
  else 31

/-- Days since the first of March of the year 0; years are counted from March. -/
def dayNumber (year : Int) (month day : Nat) : Int :=
  let (y, m) := if month ≤ 2 then (year - 1, month + 9) else (year, month - 3)
  365 * y + y.fdiv 4 - y.fdiv 100 + y.fdiv 400 + ((153 * m + 2) / 5 : Nat) + day - 1

/-- The date of a day number, as year, month and day. -/
def dateOf (number : Int) : Int × Nat × Nat :=
  let era := number.fdiv 146097
  let dayOfEra := (number - era * 146097).toNat
  let yearOfEra := (dayOfEra - dayOfEra / 1460 + dayOfEra / 36524 - dayOfEra / 146096) / 365
  let dayOfYear := dayOfEra - (365 * yearOfEra + yearOfEra / 4 - yearOfEra / 100)
  let m := (5 * dayOfYear + 2) / 153
  let day := dayOfYear - (153 * m + 2) / 5 + 1
  let year := yearOfEra + era * 400
  if m < 10 then (year, m + 3, day) else (year + 1, m - 9, day)

end Calendar

/-- The second 60 is a leap second. -/
structure Timestamp where
  year : Int
  month : Nat
  day : Nat
  hour : Nat
  minute : Nat
  second : Nat
  nanosecond : Nat
deriving DecidableEq, Repr

namespace Timestamp

/-- The date exists and every part is in its range. -/
def Valid (t : Timestamp) : Prop :=
  (-262143 ≤ t.year ∧ t.year ≤ 262142) ∧ (1 ≤ t.month ∧ t.month ≤ 12) ∧
    (1 ≤ t.day ∧ t.day ≤ Calendar.daysInMonth t.year t.month) ∧ t.hour < 24 ∧ t.minute < 60 ∧
    t.second ≤ 60 ∧ t.nanosecond < 1000000000

instance (t : Timestamp) : Decidable t.Valid := by unfold Valid; infer_instance

/-- Four digits; a year outside 0 to 9999 carries its sign. -/
def yearText (year : Int) : List Char :=
  if 0 ≤ year ∧ year ≤ 9999 then padded 4 year.toNat
  else
    let digits := decimal year.natAbs
    (if year < 0 then '-' else '+') :: (List.replicate (4 - digits.length) '0' ++ digits)

/-- No digits for a whole second, else the least of 3, 6 and 9 that loses nothing. -/
def fractionText (nanosecond : Nat) : List Char :=
  if nanosecond = 0 then []
  else if nanosecond % 1000000 = 0 then '.' :: padded 3 (nanosecond / 1000000)
  else if nanosecond % 1000 = 0 then '.' :: padded 6 (nanosecond / 1000)
  else '.' :: padded 9 nanosecond

def toList (t : Timestamp) : List Char :=
  yearText t.year ++ '-' :: padded 2 t.month ++ '-' :: padded 2 t.day ++ 'T' :: padded 2 t.hour ++
    ':' :: padded 2 t.minute ++ ':' :: padded 2 t.second ++ fractionText t.nanosecond ++ ['Z']

protected def toString (t : Timestamp) : String := String.ofList t.toList

instance : ToString Timestamp := ⟨Timestamp.toString⟩

/-- A number of one to `most` digits, and what follows it. -/
def digits? (most : Nat) (text : List Char) : Option (Nat × List Char) :=
  let digits := (text.takeWhile isDecimalDigit).take most
  (number? 10 digits).map fun n => (n, text.drop digits.length)

/-- A number, after blanks, of one to `most` digits. -/
def part? (most : Nat) (text : List Char) : Option (Nat × List Char) :=
  digits? most (trimStart text)

/-- A year has up to four digits, or any number of them after a sign. -/
def year? (text : List Char) : Option (Int × List Char) :=
  match trimStart text with
  | '-' :: rest => (digits? rest.length rest).map fun (n, rest) => (-(n : Int), rest)
  | '+' :: rest => (digits? rest.length rest).map fun (n, rest) => ((n : Int), rest)
  | text => (digits? 4 text).map fun (n, rest) => ((n : Int), rest)

/-- The mark `c`, after blanks. -/
def mark? (c : Char) (text : List Char) : Option (List Char) := dropStart? [c] (trimStart text)

/-- A fraction of a second in nanoseconds; digits after the ninth are dropped. -/
def fraction? : List Char → Option (Nat × List Char)
  | '.' :: rest =>
    (digits? 9 rest).map fun (n, after) =>
      (n * Nat.pow 10 (9 - (rest.length - after.length)), after.dropWhile isDecimalDigit)
  | text => some (0, text)

/-- Two digits below the bound. -/
def twoDigits? (bound : Nat) : List Char → Option (Nat × List Char)
  | a :: b :: rest =>
    (number? 10 [a, b]).bind fun n => if n < bound then some (n, rest) else none
  | _ => none

/-- The offset from UTC in minutes. -/
def offset? (text : List Char) : Option (Int × List Char) :=
  let ahead (rest : List Char) : Option (Int × List Char) := do
    let (hours, rest) ← twoDigits? 24 rest
    let (minutes, rest) ← twoDigits? 60 (rest.dropWhile fun c => c = ':' || isWhiteSpace c)
    pure ((hours * 60 + minutes : Nat), rest)
  match text with
  | 'Z' :: rest | 'z' :: rest => some (0, rest)
  | '+' :: rest => ahead rest
  | '-' :: rest | '−' :: rest => (ahead rest).map fun (n, rest) => (-n, rest)
  | u :: t :: c :: rest =>
    if [u.toUpper, t.toUpper, c.toUpper] = ['U', 'T', 'C'] then some (0, rest) else none
  | _ => none

/-- The same point in time for a clock that is `minutes` ahead of this one. -/
def behind (t : Timestamp) (minutes : Int) : Timestamp :=
  if minutes = 0 then t
  else
    let total := Calendar.dayNumber t.year t.month t.day * 1440 + (t.hour * 60 + t.minute : Nat) -
      minutes
    let (year, month, day) := Calendar.dateOf (total.fdiv 1440)
    let minuteOfDay := (total.fmod 1440).toNat
    { t with year, month, day, hour := minuteOfDay / 60, minute := minuteOfDay % 60 }

/-- The point in time so many seconds and nanoseconds after the beginning of 1970. -/
def ofUnix (seconds : Int) (nanosecond : Nat) : Timestamp :=
  let (year, month, day) := Calendar.dateOf (seconds.fdiv 86400 + Calendar.dayNumber 1970 1 1)
  let second := (seconds.fmod 86400).toNat
  { year, month, day, nanosecond
    hour := second / 3600, minute := second / 60 % 60, second := second % 60 }

def ofList? (text : List Char) : Option Timestamp := do
  let (year, text) ← year? text
  let (month, text) ← part? 2 (← mark? '-' text)
  let (day, text) ← part? 2 (← mark? '-' text)
  let text ← match text with
    | 'T' :: rest | 't' :: rest | ' ' :: rest => some rest
    | _ => none
  let (hour, text) ← part? 2 text
  let (minute, text) ← part? 2 (← mark? ':' text)
  let (second, text) ← part? 2 (← mark? ':' text)
  let (nanosecond, text) ← fraction? text
  let (offset, text) ← offset? (trimStart text)
  let here : Timestamp := ⟨year, month, day, hour, minute, second, nanosecond⟩
  let there := here.behind offset
  if trimStart text = [] ∧ here.Valid ∧ there.Valid then some there else none

def ofString? (text : String) : Option Timestamp := ofList? text.toList

end Timestamp

end ClusterLifecycle
