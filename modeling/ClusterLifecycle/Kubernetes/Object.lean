import ClusterLifecycle.Kubernetes.Metadata

/-!
Objects as an API server takes and gives them.
-/

namespace ClusterLifecycle.Kubernetes

structure Object where
  /-- API version and kind. -/
  type : Option (String × String)
  metadata : Json
  /-- All other fields, as they came. -/
  content : List (String × Json)

namespace Object

/-- Takes the type out of fields. It takes two texts: at one that is none, or comes again, taking
stops, and there is no type. -/
def takeType : (apiVersion kind : Option String) → List (String × Json) →
    Option (String × String) × List (String × Json)
  | some v, some k, [] => (some (v, k), [])
  | _, _, [] => (none, [])
  | v, k, (name, value) :: rest =>
    if name = "apiVersion" then
      match v, value with
      | none, .string v => takeType (some v) k rest
      | _, _ => (none, rest)
    else if name = "kind" then
      match k, value with
      | none, .string k => takeType v (some k) rest
      | _, _ => (none, rest)
    else
      let (type, others) := takeType v k rest
      (type, (name, value) :: others)

/-- Metadata may be missing, but not be given twice. -/
def ofWritten? (w : Json.Written) : Option Object := do
  let (given, others) := (← w.fields?).partition (·.1 = "metadata")
  let metadata ← match given with
    | [] => some (.object [])
    | [(_, value)] => Shape.metadata value
    | _ => none
  let others ← others.mapM fun (name, value) => (value.value? (Json.maxDepth - 1)).map (name, ·)
  let (type, content) := takeType none none others
  some { type, metadata, content }

def toJson (o : Object) : Json :=
  let type := match o.type with
    | some (apiVersion, kind) => [("apiVersion", .string apiVersion), ("kind", .string kind)]
    | none => []
  .object (type ++ ("metadata", o.metadata) :: o.content)

end Object

end ClusterLifecycle.Kubernetes
