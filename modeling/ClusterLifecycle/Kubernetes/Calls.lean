import ClusterLifecycle.Kubernetes.Answer
import ClusterLifecycle.Kubernetes.Location
import ClusterLifecycle.Manifest

/-!
Calls to an API server: applying, deleting and getting objects. Applying and deleting may be
repeated; an object that is not there is already deleted.
-/

namespace ClusterLifecycle.Kubernetes

abbrev Call := ExceptT Error (Program Http.exchange)

namespace Call

/-- Whom the fields that are applied belong to. -/
def fieldManager : String := "capi-driver"

/-- The body of the answer, unless the server refuses. -/
def send (method : Http.Method) (path : Option String) (contentType : Option String)
    (body : Option Json) : Call Json.Written := do
  let some target := path.bind sendable? | throw (.kube .unanswered)
  match ← (Http.send { method, target, contentType, body } : Call (Option Http.Response)) with
  | none => throw (.kube .unanswered)
  | some answer =>
    let some text := answer.body.text? | throw (.kube .unanswered)
    if answer.isFailure then throw (.kube (refusal answer.status text))
    match Json.Written.ofText? text with
    | none => throw (.kube .unanswered)
    | some w => return w

/-- The object in an answer. -/
def object (answer : Json.Written) : Call Object :=
  match Object.ofWritten? answer with
  | some o => return o
  | none => throw (.kube .unanswered)

/-- Makes the object what the manifest says, whoever else has set its fields. -/
def apply (m : Manifest) : Call Unit := do
  let some body := Object.ofWritten? (.ofJson m.toJson.ordered) | throw (.serialization Error.foreign)
  let query := "?&force=true&fieldManager=" ++ fieldManager
  let answer ← send .patch (m.target.path?.map (· ++ query)) "application/apply-patch+yaml"
    body.toJson
  let _ ← object answer

/-- The server knows nothing of the kind. -/
def isAbsence : Error → Bool
  | .kube (.refused 404 _ _) => true
  | _ => false

def delete (target : ObjectRef) : Call Unit :=
  tryCatch (do
    let answer ← send .delete (target.path?.map (· ++ "?")) "application/json" (Json.object [])
    unless isDeletionAnswer answer do throw (.kube .unanswered))
    fun e => if isAbsence e then return else throw e

def get (target : ObjectRef) : Call Json :=
  tryCatch (do return (← object (← send .get target.path? none none)).toJson)
    fun e => throw (if isAbsence e then .notFound target.kind target.name else e)

def exists? (target : ObjectRef) : Call Bool :=
  tryCatch (do let _ ← get target; return true)
    fun e => if e.isNotFound then return false else throw e

end Call

end ClusterLifecycle.Kubernetes
