import ClusterLifecycle.Json.Written
import ClusterLifecycle.Timestamp

/-!
Metadata of objects: the fields that are known, and what each may hold. A null counts as absent,
and unknown fields are dropped.
-/

namespace ClusterLifecycle.Kubernetes

/-- What a field may hold, and the form it is kept in. -/
abbrev Shape := Json.Written → Option Json

namespace Shape

def text (w : Json.Written) : Option Json := w.text?.map .string

def flag : Shape
  | .bool b => some (.bool b)
  | _ => none

/-- A whole number of 64 bits with a sign. -/
def whole : Shape
  | .number (some (.whole n)) =>
    if -(Nat.pow 2 63 : Int) ≤ n ∧ n < Nat.pow 2 63 then some (.number (.whole n)) else none
  | _ => none

/-- A point in time, kept to the second. -/
def time (w : Json.Written) : Option Json :=
  (w.text?.bind Timestamp.ofString?).map fun t =>
    .string { t with nanosecond := 0 }.toString

def list (item : Shape) (w : Json.Written) : Option Json := (w.items? item).map .array

/-- Texts by name. -/
def texts (w : Json.Written) : Option Json :=
  (w.fields?.bind fun fields => fields.mapM fun (name, value) => (text value).map (name, ·)).map
    .object

/-- An object with known fields. The `mandatory` ones are texts; where one is absent it is empty. -/
def record (fields : List (String × Shape)) (mandatory : List String := []) (w : Json.Written) :
    Option Json := do
  let known := fields ++ mandatory.map (·, text)
  let kept ← (← w.fields?).foldlM (fun kept (name, value) =>
    match known.lookup name, value with
    | none, _ => some kept
    | some _, .null => some (kept.filter (·.1 ≠ name))
    | some shape, value => (shape value).map (Json.setField name · kept)) []
  let absent := mandatory.filter fun name => (kept.lookup name).isNone
  some (.object (kept ++ absent.map (·, .string "")))

def owner : Shape :=
  record [("blockOwnerDeletion", flag), ("controller", flag)] ["apiVersion", "kind", "name", "uid"]

/-- Any value; it stands four levels deep in the object. -/
def anything : Shape := Json.Written.value? (Json.maxDepth - 4)

def managedFields : Shape :=
  record [("apiVersion", text), ("fieldsType", text), ("fieldsV1", anything), ("manager", text),
    ("operation", text), ("subresource", text), ("time", time)]

def metadata : Shape :=
  record [("annotations", texts), ("creationTimestamp", time),
    ("deletionGracePeriodSeconds", whole), ("deletionTimestamp", time),
    ("finalizers", list text), ("generateName", text), ("generation", whole), ("labels", texts),
    ("managedFields", list managedFields), ("name", text), ("namespace", text),
    ("ownerReferences", list owner), ("resourceVersion", text), ("selfLink", text), ("uid", text)]

end Shape

end ClusterLifecycle.Kubernetes
