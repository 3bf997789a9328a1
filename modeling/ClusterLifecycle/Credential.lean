import ClusterLifecycle.Error
import ClusterLifecycle.Text.Quoted

/-!
Application credentials: what the identity service keeps, and what a cluster is given.
-/

namespace ClusterLifecycle

/-- An application credential as the identity service shows it. -/
structure ApplicationCredential where
  id : String
  name : String
  description : Option String := none
  /-- Shown once, when the credential is created. -/
  secret : Option String := none
  projectId : Option String := none
deriving DecidableEq, Repr

/-- A credential that can be used. -/
structure Credential where
  id : String
  name : String
  secret : String
deriving DecidableEq

/-- For logs: the secret does not show. -/
protected def Credential.toString (c : Credential) : String :=
  let quoted (s : String) := String.ofList (Text.Quoted.encode s.toList)
  "Credential \x7b id: " ++ quoted c.id ++ ", name: " ++ quoted c.name ++
    ", secret: \"<redacted>\" \x7d"

instance : ToString Credential := ⟨Credential.toString⟩

end ClusterLifecycle
