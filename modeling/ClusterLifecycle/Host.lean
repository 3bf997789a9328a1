import ClusterLifecycle.Config
import ClusterLifecycle.Console
import ClusterLifecycle.Identity.Credentials
import ClusterLifecycle.Kubernetes.Calls
import ClusterLifecycle.Kubernetes.Kubeconfig
import ClusterLifecycle.Manifest.Build
import ClusterLifecycle.Store

/-!
The host: what the program asks of the machine that it runs on, and how what a command asks for
is got from it.
-/

namespace ClusterLifecycle

inductive LogLevel where
  | info | error
deriving DecidableEq, Repr

protected def LogLevel.toString : LogLevel → String
  | info => "INFO"
  | error => "ERROR"

instance : ToString LogLevel := ⟨LogLevel.toString⟩

inductive HostRequest where
  | file (q : FileRequest)
  /-- Sends a request to the management cluster at an address. -/
  | management (server : String) (r : Http.Request)
  /-- Sends a request to the identity service. -/
  | identity (r : Http.Request)
  | log (level : LogLevel) (line : String)
  | print (text : String)
  /-- What time it is. -/
  | now
  /-- How many milliseconds have passed since some moment. -/
  | time
  | sleep (milliseconds : Nat)
  /-- An identity that nothing else has. -/
  | freshUuid

def HostRequest.Answer : HostRequest → Type
  | file q => q.Answer
  | management .. | identity _ => Option Http.Response
  | log .. | print _ | sleep _ => Unit
  | now => Timestamp
  | time => Nat
  | freshUuid => Uuid

abbrev host : Interface := ⟨HostRequest, HostRequest.Answer⟩

namespace Host

variable {α : Type}

def ask (q : HostRequest) : Program host q.Answer := Program.call (I := host) q

def files (p : FileProgram α) : Program host α := p.through fun q => ask (.file q)

def management (server : String) (call : Kubernetes.Call α) : Program host (Result α) :=
  Program.through (I := Http.exchange) (fun r => ask (.management server r)) call.run

def identity (p : Program Http.exchange α) : Program host α :=
  p.through fun r => ask (.identity r)

end Host

/-- What a command is connected with. -/
structure Connection where
  server : String
  session : IdentitySession
  deployment : Deployment
  store : Store

namespace Connection

open Host

/-- The management cluster is looked for before the identity service is asked. -/
def open? (c : Config) (env : Environment) : ExceptT Failure (Program host) Connection := do
  let server ← ExceptT.mk do
    return (← files (Kubeconfig.connect c.kubeconfig env)).mapError .connection
  let session ← ExceptT.mk do
    return (← identity (IdentitySession.authenticate c.identity env).run).mapError .authentication
  return {
    server, session
    deployment := { scope := c.scope, identity := c.identity }
    store := ⟨c.stateDirectory⟩ }

/-- Asks in the session, which goes on. -/
def inSession (c : Connection) (call : IdentitySession.Call α) :
    Program host (Result α × Connection) := do
  let (r, session) ← identity (call.run.run c.session)
  return (r, { c with session })

def answerService : (q : ServiceRequest) → Connection → Program host (q.Answer × Connection)
  | .apply m, c => do return (← management c.server (.apply m), c)
  | .delete target, c => do return (← management c.server (.delete target), c)
  | .get target, c => do return (← management c.server (.get target), c)
  | .findCredential user name, c => c.inSession (.find user name)
  | .createCredential user name description, c => c.inSession (.create user name description)
  | .deleteCredential user id, c => c.inSession (.delete user id)
  | .saveCluster record, c => do
    let now ← ask .now
    return (← files (c.store.save now record), c)
  | .saveNodeGroup id g, c => do
    let now ← ask .now
    return (← files (c.store.saveNodeGroup now id g), c)

def answer : (q : ConsoleRequest) → Connection → Program host (q.Answer × Connection)
  | .service q, c => c.answerService q
  | .load id, c => do return (← files (c.store.load id), c)
  | .forget id, c => do return (← files (c.store.remove id), c)
  | .say line, c => do return (← ask (.log .info line), c)
  | .time, c => do return (← ask .time, c)
  | .sleep milliseconds, c => do return (← ask (.sleep milliseconds), c)

/-- Does what an errand asks for, in order. -/
def run (c : Connection) (errand : Errand α) : Program host (Except Failure α) := do
  return (← Program.lower (I := console) answer errand.run c).1

end Connection

end ClusterLifecycle
