import ClusterLifecycle.Credential
import ClusterLifecycle.Identity.Session

/-!
Application credentials at the identity service: creating, finding and deleting them.
-/

namespace ClusterLifecycle

namespace ApplicationCredential

open Json

def ofWritten? (w : Written) : Option ApplicationCredential := do
  let fields ← w.arranged? ["id", "name", "description", "secret", "project_id"]
  some {
    id := ← Written.required? fields "id" Written.text?
    name := ← Written.required? fields "name" Written.text?
    description := ← Written.optionalText? fields "description"
    secret := ← Written.optionalText? fields "secret"
    projectId := ← Written.optionalText? fields "project_id" }

/-- The credential that an answer tells of. -/
def told? (w : Written) : Option ApplicationCredential := do
  Written.required? (← w.arranged? ["application_credential"]) "application_credential" ofWritten?

/-- The credentials that an answer lists. -/
def listed? (w : Written) : Option (List ApplicationCredential) := do
  Written.required? (← w.arranged? ["application_credentials"]) "application_credentials"
    (·.items? ofWritten?)

end ApplicationCredential

namespace IdentitySession.Call

def credentialsOf (user : String) : String := "users/" ++ user ++ "/application_credentials"

def create (user name description : String) : Call ApplicationCredential := do
  let credential : Json := .object [("name", .string name), ("description", .string description)]
  let answer ← send .post (credentialsOf user)
    (Json.object [("application_credential", credential)])
  read ApplicationCredential.told? answer

/-- The service may list more than was asked for. -/
def find (user name : String) : Call ApplicationCredential := do
  let answer ← send .get (credentialsOf user ++ "?name=" ++ name)
  let listed ← read ApplicationCredential.listed? answer
  match listed.find? (·.name = name) with
  | some credential => return credential
  | none => throw (.notFound "ApplicationCredential" name)

def delete (user id : String) : Call Unit := do
  let answer ← send .delete (credentialsOf user ++ "/" ++ id)
  if !answer.isSuccess then throw (Identity.failure answer)

end IdentitySession.Call

end ClusterLifecycle
