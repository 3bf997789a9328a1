import ClusterLifecycle.Http
import ClusterLifecycle.Identity
import ClusterLifecycle.Json.Reader
import ClusterLifecycle.Url.Parse

/-!
Logging in to the identity service: a name and a password for a token.
-/

namespace ClusterLifecycle

namespace Identity

/-- What all endpoints are relative to: the address of the service, without slashes at its end,
under version 3 of its interface, with a slash at the end. -/
def baseText (authUrl : List Char) : List Char :=
  let trimmed := (authUrl.reverse.dropWhile (· = '/')).reverse
  let version := "/v3".toList
  (if version.isSuffixOf trimmed then trimmed else trimmed ++ version) ++ ['/']

def baseUrl (i : Identity) : Result Url :=
  match Url.parse? none (baseText i.authUrl.toList) with
  | some url => .ok url
  | none => .error (.config ("invalid auth_url " ++ i.authUrl ++ ": " ++ Error.foreign))

def endpoint (base : Url) (name : String) : Result Url :=
  match base.join? name with
  | some url => .ok url
  | none => .error (.identity ("invalid endpoint " ++ name ++ ": " ++ Error.foreign) none)

/-- Asks for a token for the project, with name and password. -/
def tokenRequest (i : Identity) (env : Environment) : Result Json := do
  let named (name : String) (more : List (String × Json)) : Json :=
    .object (("name", .string name) :: more)
  let username ← i.usernameIn env
  let password ← i.passwordIn env
  let project ← i.projectNameIn env
  let user := named username
    [("domain", named i.userDomain []), ("password", .string password)]
  let method : Json := .object
    [("methods", .array [.string "password"]), ("password", .object [("user", user)])]
  let scope : Json := .object
    [("project", named project [("domain", named i.projectDomain [])])]
  return .object [("auth", .object [("identity", method), ("scope", scope)])]

/-- The address that a request goes to; no user and no fragment is sent in it. -/
def target (u : Url) : String :=
  { u with username := [], password := [], fragment := none : Url }.toString

open Json in
/-- What the service says of a failure. -/
def explanation? (w : Written) : Option String := do
  Written.required? (← w.arranged? ["error"]) "error" fun w => do
    let fields ← w.arranged? ["code", "message", "title"]
    let _ ← Written.required? fields "code" (·.natural? (Nat.pow 2 16))
    let _ ← Written.optionalText? fields "title"
    Written.required? fields "message" Written.text?

/-- The service's words for a failure, or else the whole body. -/
def words (r : Http.Response) : String :=
  let text := r.body.text
  ((Json.Written.ofText? text).bind explanation?).getD text

/-- A failed answer as an error. -/
def failure (r : Http.Response) : Error :=
  if r.status = 404 then .notFound "identity resource" (words r)
  else .identity (words r) (some r.status)

end Identity

/-- How to get a token. -/
structure Login where
  url : Url
  body : Json

namespace Login

def ofIdentity (i : Identity) (env : Environment) (base : Url) : Result Login := do
  let body ← i.tokenRequest env
  return { url := ← Identity.endpoint base "auth/tokens", body }

/-- Tokens are of visible characters. -/
def isToken (text : String) : Bool :=
  text.toList.all fun c => (' ' ≤ c && c ≤ '~') || c = '\t'

def run (l : Login) : ExceptT Error (Program Http.exchange) String := do
  let request : Http.Request := {
    method := .post, target := Identity.target l.url, contentType := some "application/json"
    body := some l.body }
  match ← (Http.send request : ExceptT Error (Program Http.exchange) (Option Http.Response)) with
  | none => throw (.identity ("failed to reach identity service: " ++ Error.foreign) none)
  | some answer =>
    if !answer.isSuccess then throw (Identity.failure answer)
    match (answer.header? "X-Subject-Token").filter isToken with
    | some token => return token
    | none => throw (.identity "identity service returned no token" none)

end Login

end ClusterLifecycle
