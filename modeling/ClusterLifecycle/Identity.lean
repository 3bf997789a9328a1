import ClusterLifecycle.Error

/-!
How to reach the identity service and who to be there.
-/

namespace ClusterLifecycle

structure Identity where
  authUrl : String
  region : String
  /-- Which endpoints the components inside a cluster use. -/
  endpoints : String := "public"
  username : Option String := none
  password : Option String := none
  /-- The project that tokens are for. -/
  projectName : Option String := none
  userDomain : String := "Default"
  projectDomain : String := "Default"
deriving DecidableEq, Repr

/-- The environment variables that are set. -/
abbrev Environment := String → Option String

namespace Identity

def sample : Identity where
  authUrl := "https://keystone.example.com:5000/v3"
  region := "RegionOne"

/-- A setting that an environment variable stands in for where it is absent. -/
def setting (env : Environment) (value : Option String) (variable_ field : String) :
    Result String :=
  match value.or (env variable_) with
  | some value => .ok value
  | none =>
    .error (.config ("identity " ++ field ++ " not found. Set " ++ variable_ ++
      " environment variable or specify in config"))

def usernameIn (i : Identity) (env : Environment) : Result String :=
  setting env i.username "OS_USERNAME" "username"

def passwordIn (i : Identity) (env : Environment) : Result String :=
  setting env i.password "OS_PASSWORD" "password"

def projectNameIn (i : Identity) (env : Environment) : Result String :=
  setting env i.projectName "OS_PROJECT_NAME" "project_name"

end Identity

end ClusterLifecycle
