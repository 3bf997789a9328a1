/-!
JSON values. The fields of an object keep the order they were given in; where a name comes twice,
the last one counts.
-/

namespace ClusterLifecycle

namespace Json

/-- Whole numbers of at most 64 bits are kept apart from all others. -/
inductive Number where
  | whole (n : Int)
  /-- The number `mantissa · 10 ^ exponent`, with its sign. -/
  | decimal (negative : Bool) (mantissa : Nat) (exponent : Int)
deriving DecidableEq, Repr

end Json

inductive Json where
  | null
  | bool (b : Bool)
  | number (n : Json.Number)
  | string (s : String)
  | array (items : List Json)
  | object (fields : List (String × Json))
deriving Repr, Inhabited

namespace Json

mutual

/-- Same values in the same order. -/
def beq : Json → Json → Bool
  | null, null => true
  | bool a, bool b => a = b
  | number a, number b => a = b
  | string a, string b => a = b
  | array a, array b => beqItems a b
  | object a, object b => beqFields a b
  | _, _ => false

def beqItems : List Json → List Json → Bool
  | [], [] => true
  | a :: as, b :: bs => beq a b && beqItems as bs
  | _, _ => false

def beqFields : List (String × Json) → List (String × Json) → Bool
  | [], [] => true
  | (k, a) :: as, (l, b) :: bs => k = l && beq a b && beqFields as bs
  | _, _ => false

end

instance : BEq Json := ⟨beq⟩

def ofNat (n : Nat) : Json := number (.whole n)

def ofOption {α : Type} (f : α → Json) : Option α → Json
  | none => null
  | some a => f a

instance : Coe String Json := ⟨string⟩
instance : Coe Bool Json := ⟨bool⟩

/-- The fields of an object; no other value has any. -/
def fields : Json → List (String × Json)
  | object fields => fields
  | _ => []

/-- The last field of that name. -/
def get? (j : Json) (name : String) : Option Json := j.fields.reverse.lookup name

def string? : Json → Option String
  | string s => some s
  | _ => none

def bool? : Json → Option Bool
  | bool b => some b
  | _ => none

def array? : Json → Option (List Json)
  | array items => some items
  | _ => none

def object? : Json → Option (List (String × Json))
  | object fields => some fields
  | _ => none

/-- A whole number from zero up to the bound. -/
def natural? (bound : Nat) : Json → Option Nat
  | number (.whole n) => if 0 ≤ n ∧ n < bound then some n.toNat else none
  | _ => none

/-- The fields of the value itself, not of those in it, in ascending order of their names. -/
def ordered : Json → Json
  | object fields => object (fields.mergeSort fun a b => a.1 ≤ b.1)
  | j => j

/-- Sets a field; one of that name that is there gives its place. -/
def setField (name : String) (value : Json) : List (String × Json) → List (String × Json)
  | [] => [(name, value)]
  | (n, v) :: rest => if n = name then (name, value) :: rest else (n, v) :: setField name value rest

def set (j : Json) (name : String) (value : Json) : Json :=
  object (setField name value j.fields)

end Json

end ClusterLifecycle
