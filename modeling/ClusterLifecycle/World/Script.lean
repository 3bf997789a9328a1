import ClusterLifecycle.World

/-!
Scripted credentials: an identity service that gives prepared answers in turn, and then ordinary
ones. It holds nothing else.
-/

namespace ClusterLifecycle

structure Script where
  find : List (Result ApplicationCredential) := []
  create : List (Result ApplicationCredential) := []
  delete : List (Result Unit) := []

namespace Script

/-- The next prepared answer, or the ordinary one. -/
def next {α : Type} (ordinary : α) : List α → α × List α
  | [] => (ordinary, [])
  | a :: rest => (a, rest)

def answer : (q : ServiceRequest) → Script → q.Answer × Script
  | .findCredential _ name, s =>
    let (a, find) := next (.error (.notFound "ApplicationCredential" name)) s.find
    (a, { s with find })
  | .createCredential _ name _, s =>
    let (a, create) := next (.ok { id := "cred-1", name, secret := some "s3cret" }) s.create
    (a, { s with create })
  | .deleteCredential .., s =>
    let (a, delete) := next (.ok ()) s.delete
    (a, { s with delete })
  | .get target, s => (.error (.notFound target.kind target.name), s)
  | .apply _, s | .delete _, s | .saveCluster _, s | .saveNodeGroup .., s => (.ok (), s)

end Script

end ClusterLifecycle
