import ClusterLifecycle.Services

/-!
The application credential of a cluster, issued to its owner under the cluster's identity.
-/

namespace ClusterLifecycle.Credential

open Operation

def description (id : Uuid) : String := "Magnum cluster (" ++ id.toString ++ ")"

/-- The credential as it was created, if it came with its secret. -/
def ofCreated (created : ApplicationCredential) : Result Credential :=
  match created.secret with
  | some secret => .ok { id := created.id, name := created.name, secret }
  | none =>
    .error (.identity ("application credential " ++ created.id ++
      " was created without a secret") none)

/-- Creates the credential. The secret of one that is already there can no longer be had, so that
one is replaced. -/
def issue (user : String) (id : Uuid) : Operation Credential := do
  if let some stale ← orAbsent (findCredential user id.toString) then
    deleteCredential user stale.id
  ofCreated (← createCredential user id.toString (description id))

/-- Deletes the credential, if there is one. -/
def revoke (user : String) (id : Uuid) : Operation Unit := do
  if let some credential ← orAbsent (findCredential user id.toString) then
    let _ ← orAbsent (deleteCredential user credential.id)

end ClusterLifecycle.Credential
