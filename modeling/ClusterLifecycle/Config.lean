import ClusterLifecycle.Files
import ClusterLifecycle.Identity
import ClusterLifecycle.Record
import ClusterLifecycle.Url.Parse

/-!
Settings of the program, kept in a YAML file.
-/

namespace ClusterLifecycle

open Yaml Record

structure Config where
  /-- The namespace of all objects. -/
  scope : String := "magnum-system"
  /-- The file that tells how to reach the management cluster. -/
  kubeconfig : Option String := none
  /-- The directory of the records. -/
  stateDirectory : String := "./state"
  identity : Identity
deriving DecidableEq, Repr

namespace Identity

def toYaml (i : Identity) : Value :=
  .mapping <| text "auth_url" i.authUrl ++ text "region_name" i.region ++
    text "interface" i.endpoints ++ optionalText "username" i.username ++
    optionalText "password" i.password ++ optionalText "project_name" i.projectName ++
    text "user_domain_name" i.userDomain ++ text "project_domain_name" i.projectDomain

def fieldNames : List String :=
  ["auth_url", "region_name", "interface", "username", "password", "project_name",
    "user_domain_name", "project_domain_name"]

def ofYaml? (d : Document) (n : Node) : Option Identity := do
  let fields ← d.record? fieldNames n
  let optional (name : String) := defaulted fields name none (d.optional? d.text?)
  let authUrl ← required fields "auth_url" d.text?
  let region ← required fields "region_name" d.text?
  let endpoints ← defaulted fields "interface" "public" d.text?
  let username ← optional "username"
  let password ← optional "password"
  let projectName ← optional "project_name"
  let userDomain ← defaulted fields "user_domain_name" "Default" d.text?
  let projectDomain ← defaulted fields "project_domain_name" "Default" d.text?
  some { authUrl, region, endpoints, username, password, projectName, userDomain, projectDomain }

end Identity

namespace Config

def sample : Config where
  identity := .sample

def toYaml (c : Config) : Value :=
  .mapping <| text "namespace" c.scope ++ optionalText "kubeconfig" c.kubeconfig ++
    text "state_dir" c.stateDirectory ++ [("identity", c.identity.toYaml)]

def ofYaml? (d : Document) (n : Node) : Option Config := do
  let fields ← d.record? ["namespace", "kubeconfig", "state_dir", "identity"] n
  let scope ← defaulted fields "namespace" "magnum-system" d.text?
  let kubeconfig ← defaulted fields "kubeconfig" none (d.optional? d.text?)
  let stateDirectory ← defaulted fields "state_dir" "./state" d.text?
  let identity ← required fields "identity" (Identity.ofYaml? d)
  some { scope, kubeconfig, stateDirectory, identity }

def render (c : Config) : String := Yaml.render c.toYaml

def read? (text : String) : Option Config :=
  (document? text.toList).bind fun d => ofYaml? d d.root

/-- Whether the settings can be used: names are there, and the identity service has a web address. -/
def validate (c : Config) : Result Unit :=
  if c.scope = "" then .error (.config "namespace cannot be empty")
  else if c.identity.region = "" then .error (.config "identity.region_name cannot be empty")
  else
    match Url.ofString? c.identity.authUrl with
    | none =>
      .error (.config ("invalid identity.auth_url " ++ c.identity.authUrl ++ ": " ++ Error.foreign))
    | some url =>
      if url.scheme = "http".toList ∨ url.scheme = "https".toList then .ok ()
      else .error (.config ("identity.auth_url must be http(s): " ++ c.identity.authUrl))

/-- Reads settings that can be used. -/
def load (path : String) : FileProgram (Result Config) := do
  match ← Files.read path with
  | .error _ => return .error (.config ("failed to read " ++ path ++ ": " ++ Error.foreign))
  | .ok content =>
    match read? content with
    | none => return .error (.config ("failed to parse " ++ path ++ ": " ++ Error.foreign))
    | some c => return c.validate.map fun () => c

end Config

end ClusterLifecycle
