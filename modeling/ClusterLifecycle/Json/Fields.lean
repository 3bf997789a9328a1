import ClusterLifecycle.Json

/-!
Reading the fields of records. A field of a wrong kind is never passed over.
-/

namespace ClusterLifecycle.Json

variable {α : Type}

/-- A field that has to be there. -/
def required? (j : Json) (name : String) (read? : Json → Option α) : Option α :=
  (j.get? name).bind read?

/-- A field that may be missing; null does not count as missing. -/
def defaulted? (j : Json) (name : String) (fallback : α) (read? : Json → Option α) : Option α :=
  match j.get? name with
  | none => some fallback
  | some value => read? value

/-- A field that may be missing or null. -/
def optional? (j : Json) (name : String) (read? : Json → Option α) : Option (Option α) :=
  match j.get? name with
  | none | some .null => some none
  | some value => (read? value).map some

def requiredText? (j : Json) (name : String) : Option String := j.required? name string?

def optionalText? (j : Json) (name : String) : Option (Option String) := j.optional? name string?

/-- The items of an array, all of one kind. -/
def items? (read? : Json → Option α) (j : Json) : Option (List α) :=
  j.array?.bind fun items => items.mapM read?

/-- Reads an object by its fields; no other value is one. -/
def record? (read? : Json → Option α) (j : Json) : Option α :=
  j.object?.bind fun _ => read? j

/-- Reads a record: an object by its fields, or an array by its items, which stand for the fields of
these names in this order. An array may leave out the last ones, but it may hold no more. -/
def arranged? (names : List String) (read? : Json → Option α) : Json → Option α
  | array items => if items.length ≤ names.length then read? (object (names.zip items)) else none
  | j => j.record? read?

end ClusterLifecycle.Json
