import ClusterLifecycle.Console.Arguments
import ClusterLifecycle.Console.Commands
import ClusterLifecycle.Host
import ClusterLifecycle.Json.Writer

/-!
The program as a whole: what it does on a host for a command line.
-/

namespace ClusterLifecycle

def Capability.toJson (c : Capability) : Json :=
  .object [("server_type", c.serverType), ("os", c.os), ("coe", c.coe)]

namespace Invocation

open Host

/-- What is done until a failure ends it. -/
abbrev Run := ExceptT Failure (Program host)

/-- Goes on whatever the host answers. -/
def perform {α : Type} (p : Program host α) : Run α := ExceptT.lift p

def say (line : String) : Run Unit := perform (ask (.log .info line))

def settings (i : Invocation) : Run Config := ExceptT.mk do
  return (← files (Config.load i.config)).mapError .configuration

/-- Writes a file that is described as `what`. -/
def write (path text what : String) : Run Unit := do
  match ← perform (files (Files.write path text)) with
  | .ok () => return
  | .error _ => throw (.unwritten what)

/-- No file that is there is written over. -/
def init (i : Invocation) (record : String) : Run Unit := do
  for path in [i.config, record] do
    if ← perform (files (Files.present path)) then throw (.alreadyThere path)
  write i.config Config.sample.render "configuration file"
  let id ← perform (ask .freshUuid)
  write record (Cluster.sample id).render "cluster record"
  say ("Example configuration created: " ++ i.config)
  say ("Example cluster record created: " ++ record)
  say ""
  say "Next steps:"
  say "  1. Edit both files to match your cloud, including certificate_authorities"
  say "  2. Set your OpenStack credentials:"
  say "     export OS_USERNAME=... OS_PASSWORD=... OS_PROJECT_NAME=..."
  say "  3. Create the cluster:"
  say ("     capi-driver create --cluster " ++ record)

/-- The record in a file, of a cluster that can be created. -/
def record (path : String) : Run Cluster := do
  match ← perform (files (Files.read path)) with
  | .error _ => throw (.unreadable path)
  | .ok text =>
    let some c := Cluster.read? text | throw (.unparsable path)
    if c.masters.isEmpty then throw (.noMasters c.name)
    return c

/-- Runs an errand in a connection of its own. -/
def connected (env : Environment) (settings : Config) (errand : Deployment → Errand Unit) :
    Run Unit := do
  let c ← Connection.open? settings env
  ExceptT.mk (c.run (errand c.deployment))

def create (i : Invocation) (env : Environment) (path : String) : Run Unit := do
  let settings ← i.settings
  let c ← record path
  say "Starting cluster creation..."
  say ("Cluster: " ++ c.name ++ " (" ++ c.uuid.toString ++ ")")
  connected env settings fun d => Errand.create d c

/-- Needs no connection. -/
def list (i : Invocation) : Run Unit := do
  let directory := (← i.settings).stateDirectory
  match ← perform (files (Store.list ⟨directory⟩)) with
  | .error e => throw (.error e)
  | .ok [] => say ("No clusters found in " ++ directory)
  | .ok clusters =>
    clusters.forM fun c => say (c.uuid.toString ++ " " ++ c.name ++ " " ++ c.status.toString)

def provides : Run Unit :=
  perform (ask (.print ((Json.array (capabilities.map Capability.toJson)).pretty ++ "\n")))

def run (i : Invocation) (env : Environment) : Run Unit := do
  let connected (errand : Deployment → Errand Unit) : Run Unit := do
    Invocation.connected env (← i.settings) errand
  match i.command with
  | .init record => i.init record
  | .create record => i.create env record
  | .delete id => connected fun d => Errand.delete d id
  | .status id => connected fun d => Errand.status d id
  | .watch id timeout interval => connected fun d => Errand.watch d id timeout interval
  | .list => i.list
  | .createGroup id g => connected fun d => Errand.createGroup d id g
  | .deleteGroup id name => connected fun d => Errand.deleteGroup d id name
  | .groupStatus id name => connected fun d => Errand.groupStatus d id name
  | .provides => provides

end Invocation

/-- Answers a command line, and gives the code that the program ends with. -/
def Host.program (arguments : List String) (env : Environment) : Program host Nat := do
  match Invocation.ofArguments arguments with
  | .error .help => return 0
  | .error .misuse => return 2
  | .ok i =>
    match ← (i.run env).run with
    | .ok () => return 0
    | .error failure =>
      Host.ask (.log .error ("Error: " ++ failure.message))
      return 1

end ClusterLifecycle
