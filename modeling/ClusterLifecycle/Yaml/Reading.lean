import ClusterLifecycle.Yaml.Node
import ClusterLifecycle.Yaml.Plain

/-!
Reading typed values out of a YAML document. A required text is any scalar, taken by its letters; an
optional one is absent where the scalar is plain and empty or null.
-/

namespace ClusterLifecycle.Yaml.Document

def text? (d : Document) (n : Node) : Option String :=
  match d.resolve n with
  | .scalar _ text _ => some text
  | _ => none

def nullTag : String := "tag:yaml.org,2002:null"

/-- Whether a node is there: absent where it is plain and null. The null tag goes with null only. -/
def isPresent? (d : Document) (n : Node) : Option Bool :=
  match d.resolve n with
  | .scalar none text true => some !(text.isEmpty || isNull text.toList)
  | .scalar (some tag) text true =>
    if tag = nullTag then (if isNull text.toList then some false else none) else some true
  | _ => some true

def optional? {α : Type} (d : Document) (read : Node → Option α) (n : Node) : Option (Option α) :=
  (d.isPresent? n).bind fun present => if present then (read n).map some else some none

/-- A plain whole number below the bound. -/
def natural? (d : Document) (bound : Nat) (n : Node) : Option Nat :=
  match d.resolve n with
  | .scalar _ text true => (Yaml.natural? (Nat.pow 2 64) text.toList).filter (· < bound)
  | _ => none

/-- A name of a fixed choice: given as the text, or as a tag of its own in front of nothing. -/
def choice? {α : Type} (d : Document) (ofString? : String → Option α) (n : Node) : Option α :=
  match d.resolve n with
  | .scalar tag text plain =>
    match tag.map String.toList with
    | some ('!' :: name) =>
      let name := if name.isEmpty then "!" else String.ofList name
      if plain && (text.isEmpty || isNull text.toList) then ofString? name else none
    | _ => ofString? text
  | _ => none

def items? (d : Document) (n : Node) : Option (List Node) :=
  match d.resolve n with
  | .sequence _ items => some items
  | .scalar _ "" true => some []
  | _ => none

/-- The fields of a mapping; every key has to be a text. -/
def fields? (d : Document) (n : Node) : Option (List (String × Node)) :=
  match d.resolve n with
  | .mapping _ fields => fields.mapM fun (key, value) => (d.text? key).map (·, value)
  | .scalar _ "" true => some []
  | _ => none

/-- The fields of a record: none of the known names may come twice. -/
def record? (d : Document) (known : List String) (n : Node) : Option (List (String × Node)) :=
  (d.fields? n).filter fun fields => known.all fun name => fields.countP (·.1 = name) ≤ 1

end ClusterLifecycle.Yaml.Document

namespace ClusterLifecycle.Yaml

/-- A field that has to be there. -/
def required {α : Type} (fields : List (String × Node)) (name : String)
    (read : Node → Option α) : Option α :=
  (fields.lookup name).bind read

/-- A field that is taken from `fallback` where it is missing. -/
def defaulted {α : Type} (fields : List (String × Node)) (name : String) (fallback : α)
    (read : Node → Option α) : Option α :=
  match fields.lookup name with
  | none => some fallback
  | some n => read n

end ClusterLifecycle.Yaml
