import ClusterLifecycle.Error
import ClusterLifecycle.Http
import ClusterLifecycle.Json.Reader
import ClusterLifecycle.Kubernetes.Object

/-!
What an API server answers: objects, statuses and refusals.
-/

namespace ClusterLifecycle.Kubernetes

open Json

/-- A number of 16 bits. -/
def code? : Written → Option Nat := Written.natural? (Nat.pow 2 16)

/-- A refusal in the server's words. The code of the answer that carries it plays no part. -/
def refusal? (w : Written) : Option KubeFailure := do
  let fields ← w.arranged? ["status", "message", "reason", "code"]
  let _ ← Written.required? fields "status" Written.text?
  let message ← Written.defaulted? fields "message" "" Written.text?
  let reason ← Written.defaulted? fields "reason" "" Written.text?
  let code ← Written.required? fields "code" code?
  some (.refused code reason message)

/-- A failed answer as a refusal; where its text is none, its code counts. -/
def refusal (status : Nat) (text : String) : KubeFailure :=
  ((Written.ofText? text).bind refusal?).getD
    (.refused status "Failed to parse error data" Error.foreign)

def isCause (w : Written) : Bool :=
  let names := ["reason", "message", "field"]
  (w.arranged? names).any fun fields =>
    names.all fun name => (Written.defaulted? fields name "" Written.text?).isSome

def isDetails (w : Written) : Bool :=
  let texts := ["name", "group", "kind", "uid"]
  (w.arranged? (texts ++ ["causes", "retryAfterSeconds"])).any fun fields =>
    (texts.all fun name => (Written.defaulted? fields name "" Written.text?).isSome) &&
    (Written.defaulted? fields "causes" [] (Written.items? some)).any (·.all isCause) &&
    (Written.defaulted? fields "retryAfterSeconds" 0 (Written.natural? (Nat.pow 2 32))).isSome

/-- Success or failure: the word, or an object that says no more. -/
def isSummary : Written → Bool
  | .string s | .object [(s, .null)] => s.any ["Success", "Failure"].contains
  | _ => false

/-- How an operation went, as a server tells it. -/
def isStatus (w : Written) : Bool :=
  (w.arranged? ["status", "code", "message", "reason", "details"]).any fun fields =>
    (Written.defaulted? fields "status" none (Written.optional? some)).any (·.all isSummary) &&
    (Written.defaulted? fields "code" 0 code?).isSome &&
    (["message", "reason"].all fun name =>
      (Written.defaulted? fields name "" Written.text?).isSome) &&
    (Written.defaulted? fields "details" none (Written.optional? some)).any (·.all isDetails)

/-- A deletion is answered by a status, or by the object as it was. -/
def isDeletionAnswer (w : Written) : Bool :=
  (w.value? maxDepth).any fun j =>
    match j.get? "kind" with
    | some (.string "Status") => isStatus w
    | _ => (Object.ofWritten? w).isSome

end ClusterLifecycle.Kubernetes
