import ClusterLifecycle.Json

/-!
JSON as it is written. A number that is out of range, or a text that stands for no characters, has
no value; it does no harm where nothing is made of it.
-/

namespace ClusterLifecycle.Json

inductive Written where
  | null
  | bool (b : Bool)
  | number (n : Option Number)
  | string (s : Option String)
  | array (items : List Written)
  | object (fields : List (Option String × Written))

/-- How deep values may be nested in a text. -/
def maxDepth : Nat := 127

namespace Written

mutual

/-- What is written, if all of it has a value and none of it is nested deeper than `depth`. -/
def value? (depth : Nat) : Written → Option Json
  | null => some .null
  | bool b => some (.bool b)
  | number n => n.map .number
  | string s => s.map .string
  | array items =>
    match depth with
    | 0 => none
    | depth + 1 => (valuesOf? depth items).map .array
  | object fields =>
    match depth with
    | 0 => none
    | depth + 1 => (valuesOfFields? depth fields).map .object

def valuesOf? (depth : Nat) : List Written → Option (List Json)
  | [] => some []
  | item :: rest => do some ((← value? depth item) :: (← valuesOf? depth rest))

def valuesOfFields? (depth : Nat) : List (Option String × Written) → Option (List (String × Json))
  | [] => some []
  | (name, value) :: rest => do
    some ((← name, ← value? depth value) :: (← valuesOfFields? depth rest))

end

mutual

def ofJson : Json → Written
  | .null => null
  | .bool b => bool b
  | .number n => number n
  | .string s => string s
  | .array items => array (ofItems items)
  | .object fields => object (ofFields fields)

def ofItems : List Json → List Written
  | [] => []
  | item :: rest => ofJson item :: ofItems rest

def ofFields : List (String × Json) → List (Option String × Written)
  | [] => []
  | (name, value) :: rest => (name, ofJson value) :: ofFields rest

end

variable {α : Type}

def text? : Written → Option String
  | string s => s
  | _ => none

/-- A whole number from zero up to the bound. -/
def natural? (bound : Nat) : Written → Option Nat
  | number n => n.bind fun n => (Json.number n).natural? bound
  | _ => none

/-- What may be null. -/
def optional? (read? : Written → Option α) : Written → Option (Option α)
  | null => some none
  | w => (read? w).map some

/-- The items of an array, all of one kind. -/
def items? (read? : Written → Option α) : Written → Option (List α)
  | array items => items.mapM read?
  | _ => none

/-- The fields of an object, whose names all have to be texts. -/
def fields? : Written → Option (List (String × Written))
  | object fields => fields.mapM fun (name, value) => name.map (·, value)
  | _ => none

/-- The fields of a record: of an object in which none of the known names comes twice, or of an
array, whose items stand for the fields of these names in this order. An array may leave out the
last ones, but it may hold no more. -/
def arranged? (names : List String) : Written → Option (List (String × Written))
  | array items => if items.length ≤ names.length then some (names.zip items) else none
  | w => w.fields?.filter fun fields => names.all fun name => fields.countP (·.1 = name) ≤ 1

/-- A field that has to be there. -/
def required? (fields : List (String × Written)) (name : String) (read? : Written → Option α) :
    Option α :=
  (fields.lookup name).bind read?

/-- A field that may be missing. -/
def defaulted? (fields : List (String × Written)) (name : String) (fallback : α)
    (read? : Written → Option α) : Option α :=
  match fields.lookup name with
  | none => some fallback
  | some value => read? value

/-- A text that may be missing or null. -/
def optionalText? (fields : List (String × Written)) (name : String) : Option (Option String) :=
  defaulted? fields name none (optional? text?)

end Written

end ClusterLifecycle.Json
