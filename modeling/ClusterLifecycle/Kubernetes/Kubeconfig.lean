import ClusterLifecycle.Files
import ClusterLifecycle.Identity
import ClusterLifecycle.Kubernetes.Location
import ClusterLifecycle.Yaml.Reading

/-!
Kubeconfigs: files that tell how management clusters are reached. A context names a cluster and a
user; one context is the current one.
-/

namespace ClusterLifecycle

open Yaml

structure Kubeconfig where
  currentContext : Option String := none
  /-- The cluster and the user of each context. -/
  contexts : List (String × Option (String × Option String)) := []
  /-- The address of each cluster. -/
  clusters : List (String × Option (Option String)) := []
  users : List (String × Option Unit) := []
deriving DecidableEq, Repr

namespace Kubeconfig

/-- A scalar that stands for a text, and not for a number, a truth value or nothing. -/
def text? (d : Document) (n : Node) : Option String :=
  match d.resolve n with
  | .scalar none text true =>
    if isAmbiguous text.toList && !hasLeadingZero text.toList then none else some text
  | .scalar _ text _ => some text
  | _ => none

/-- The fields of a record; nothing at all counts as a record without fields. -/
def record? (d : Document) (known : List String) (n : Node) : Option (List (String × Node)) := do
  if ← d.isPresent? n then d.record? known n else return []

/-- The entries of a list, each a name with something that is told of it. -/
def entries? {α : Type} (d : Document) (content : String) (read : Node → Option α) (n : Node) :
    Option (List (String × Option α)) := do
  if ← d.isPresent? n then
    (← d.items? n).mapM fun item => do
      let fields ← record? d ["name", content] item
      let name ← required fields "name" (text? d)
      return (name, ← defaulted fields content none (d.optional? read))
  else return []

def ofYaml? (d : Document) (n : Node) : Option Kubeconfig := do
  let optional (fields : List (String × Node)) (name : String) : Option (Option String) :=
    defaulted fields name none (d.optional? (text? d))
  let fields ← record? d ["current-context", "contexts", "clusters", "users"] n
  let context (n : Node) : Option (String × Option String) := do
    let fields ← record? d ["cluster", "user"] n
    return (← required fields "cluster" (text? d), ← optional fields "user")
  let cluster (n : Node) : Option (Option String) := do
    optional (← record? d ["server"] n) "server"
  let user (n : Node) : Option Unit := (record? d [] n).map fun _ => ()
  return {
    currentContext := ← optional fields "current-context"
    contexts := ← defaulted fields "contexts" [] (entries? d "context" context)
    clusters := ← defaulted fields "clusters" [] (entries? d "cluster" cluster)
    users := ← defaulted fields "users" [] (entries? d "user" user) }

/-- A text without any content is a kubeconfig that tells nothing. -/
def read? (text : String) : Option Kubeconfig :=
  if tokens? text.toList = some [] then some {}
  else (document? text.toList).bind fun d => ofYaml? d d.root

/-- What is told by both; where they differ, the first one counts. -/
def merge (a b : Kubeconfig) : Kubeconfig where
  currentContext := a.currentContext.or b.currentContext
  contexts := a.contexts ++ b.contexts
  clusters := a.clusters ++ b.clusters
  users := a.users ++ b.users

/-- The address of the cluster of the current context, for a user that is told of. -/
def server? (k : Kubeconfig) : Option String := do
  let (cluster, user) ← (k.contexts.lookup (← k.currentContext)).join
  let server ← ((← k.clusters.lookup cluster).join : Option String)
  let known := match user with
    | some user => (k.users.lookup user).join.isSome
    | none => true
  if known && server ≠ "" && server.toList.all (fun c => Kubernetes.isPathCharacter c && c < '\x7f')
  then some server
  else none

def load (path : String) : FileProgram (Option Kubeconfig) :=
  return (← Files.read path).toOption.bind read?

/-- Merges the files at paths, of which none may be missing. -/
def loadAll (k : Kubeconfig) : List String → FileProgram (Option Kubeconfig)
  | [] => return some k
  | path :: rest => do
    match ← load path with
    | some more => loadAll (k.merge more) rest
    | none => return none

/-- Where kubeconfigs are looked for when none is named. -/
def paths (env : Environment) : List String :=
  match ((env "KUBECONFIG").getD "").splitOn ":" |>.filter (· ≠ "") with
  | [] => (env "HOME").toList.map (Files.join · ".kube/config")
  | paths => paths

/-- The address of the management cluster, by the kubeconfig that is named or else by those that
the environment leads to. -/
def connect (named : Option String) (env : Environment) : FileProgram (Result String) := do
  match named with
  | some path =>
    match ← load path with
    | none =>
      return .error (.config ("failed to read kubeconfig " ++ path ++ ": " ++ Error.foreign))
    | some k =>
      match k.server? with
      | none => return .error (.config ("failed to load kubeconfig: " ++ Error.foreign))
      | some server => return .ok server
  | none =>
    match (← loadAll {} (paths env)).bind server? with
    | none => return .error (.kube .unanswered)
    | some server => return .ok server

end Kubeconfig

end ClusterLifecycle
