import ClusterLifecycle.Identity.Login

/-!
Sessions with the identity service. One that was opened with a login gets itself another token when
its own is refused, once for each request, and keeps it.
-/

namespace ClusterLifecycle

/-- What is read in the body of an answer. -/
def Http.Response.read? {α : Type} (r : Http.Response) (read? : Json.Written → Option α) : Option α :=
  (Json.Written.read? r.body.bytes).bind read?

structure IdentitySession where
  base : Url
  /-- Absent where all there is is a token. -/
  login : Option Login
  token : String

namespace IdentitySession

/-- What can be sent as a token at all. -/
def isSendable (token : String) : Bool :=
  token.toList.all fun c => (' ' ≤ c && c ≠ '\x7f') || c = '\t'

def ofToken (base : Url) (token : String) : Result IdentitySession :=
  if isSendable token then .ok { base, login := none, token }
  else .error (.identity "invalid token format" none)

def authenticate (i : Identity) (env : Environment) :
    ExceptT Error (Program Http.exchange) IdentitySession := do
  let base ← i.baseUrl
  let login ← Login.ofIdentity i env base
  return { base, login := some login, token := ← login.run }

/-- What is asked in a session. -/
abbrev Call := ExceptT Error (StateT IdentitySession (Program Http.exchange))

namespace Call

def sendOnce (method : Http.Method) (url : Url) (body : Option Json) : Call Http.Response := do
  let request : Http.Request := {
    method, target := Identity.target url, contentType := some "application/json"
    token := some (← get).token, body }
  match ← (Http.send request : StateT IdentitySession (Program Http.exchange) _) with
  | none =>
    throw (.identity ("failed to send " ++ method.toString ++ " request: " ++ Error.foreign) none)
  | some answer => return answer

/-- A new token is kept even if the request is refused again. -/
def send (method : Http.Method) (endpoint : String) (body : Option Json := none) :
    Call Http.Response := do
  let url ← Identity.endpoint (← get).base endpoint
  let answer ← sendOnce method url body
  match answer.status, (← get).login with
  | 401, some login =>
    let token ← ExceptT.mk (StateT.lift login.run.run)
    modify ({ · with token })
    sendOnce method url body
  | _, _ => return answer

/-- The body of an answer. -/
def read {α : Type} (read? : Json.Written → Option α) (answer : Http.Response) : Call α := do
  if !answer.isSuccess then throw (Identity.failure answer)
  match answer.read? read? with
  | some a => return a
  | none => throw (.identity ("failed to parse API response: " ++ Error.foreign) none)

end Call

end IdentitySession

end ClusterLifecycle
