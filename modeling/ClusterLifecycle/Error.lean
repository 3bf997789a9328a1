import ClusterLifecycle.Text.Digits

/-!
What can go wrong. A cluster or node group that failed to come up is no error: its record carries
that as a status.
-/

namespace ClusterLifecycle

/-- How the management cluster refused a call. -/
inductive KubeFailure where
  /-- The API answered with an error of its own. -/
  | refused (code : Nat) (reason message : String)
  /-- No usable answer came back. -/
  | unanswered
deriving DecidableEq, Repr

inductive Error where
  /-- The one error that means the thing asked for does not exist. -/
  | notFound (kind name : String)
  /-- The identity service was out of reach or refused; `status` is the code of its answer. -/
  | identity (message : String) (status : Option Nat)
  /-- An observed field is missing or cannot be interpreted. -/
  | malformed (object message : String)
  | unsupported (operation : String)
  | kube (failure : KubeFailure)
  | persistence (record message : String)
  | serialization (message : String)
  | config (message : String)
deriving DecidableEq, Repr

namespace Error

/-- Stands for a reason worded by the operating system, the network or a reader of some format:
such words are not this library's to choose. -/
def foreign : String := "<detail>"

def isNotFound : Error → Bool
  | notFound .. => true
  | _ => false

def message : Error → String
  | notFound kind name => kind ++ " " ++ name ++ " not found"
  | identity message _ => "identity backend error: " ++ message
  | malformed object message => "malformed state in " ++ object ++ ": " ++ message
  | unsupported operation => "operation '" ++ operation ++ "' is not supported by this driver"
  | kube _ => "kubernetes error: " ++ foreign
  | persistence record message => "persistence error for " ++ record ++ ": " ++ message
  | serialization message => "serialization error: " ++ message
  | config message => "configuration error: " ++ message

end Error

abbrev Result (α : Type) := Except Error α

end ClusterLifecycle
