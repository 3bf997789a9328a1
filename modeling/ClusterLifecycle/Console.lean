import ClusterLifecycle.Polling
import ClusterLifecycle.Services

/-!
The console: what the commands of an operator ask for while they run.
-/

namespace ClusterLifecycle

inductive ConsoleRequest where
  | service (q : ServiceRequest)
  | load (id : Uuid)
  /-- Removes a record. -/
  | forget (id : Uuid)
  | say (line : String)
  /-- How many milliseconds have passed since some moment. -/
  | time
  | sleep (milliseconds : Nat)

def ConsoleRequest.Answer : ConsoleRequest → Type
  | service q => q.Answer
  | load _ => Result Cluster
  | forget _ => Result Unit
  | say _ | sleep _ => Unit
  | time => Nat

abbrev console : Interface := ⟨ConsoleRequest, ConsoleRequest.Answer⟩

/-- Why a command ends before it is done. -/
inductive Failure where
  | error (e : Error)
  | configuration (e : Error)
  /-- There is no way to the management cluster. -/
  | connection (e : Error)
  | authentication (e : Error)
  | unreadable (path : String)
  | unparsable (path : String)
  | alreadyThere (path : String)
  | unwritten (what : String)
  | noMasters (cluster : String)
  | groupExists (group cluster : String)
  | groupMissing (group cluster : String)
  | timedOut (message : String)
deriving DecidableEq, Repr

/-- The outermost reason comes first. -/
def Failure.message : Failure → String
  | error e => e.message
  | configuration e => "Failed to load configuration: " ++ e.message
  | connection e => "Failed to connect to the management cluster: " ++ e.message
  | authentication e => "Failed to authenticate against the identity service: " ++ e.message
  | unreadable path => "Failed to read " ++ path ++ ": " ++ Error.foreign
  | unparsable path => "Failed to parse " ++ path ++ ": " ++ Error.foreign
  | alreadyThere path => "File already exists: " ++ path
  | unwritten what => "Failed to write " ++ what ++ ": " ++ Error.foreign
  | noMasters cluster => "Cluster " ++ cluster ++ " declares no master node group"
  | groupExists group cluster => "Node group " ++ group ++ " already exists in " ++ cluster
  | groupMissing group cluster => "Node group " ++ group ++ " not found in " ++ cluster
  | timedOut message => message

/-- What a command does once it is connected. -/
abbrev Errand := ExceptT Failure (Program console)

namespace Errand

variable {α : Type}

/-- A failing request ends the errand. -/
def ofResult (p : Program console (Result α)) : Errand α :=
  ExceptT.mk do return (← p).mapError .error

def service (p : Program services α) : Program console α :=
  p.through fun q => Program.call (I := console) (.service q)

instance : MonadLift Operation Errand where
  monadLift op := ofResult (service op.run)

def load (id : Uuid) : Errand Cluster := ofResult (Program.call (I := console) (.load id))

def forget (id : Uuid) : Errand Unit := ofResult (Program.call (I := console) (.forget id))

def say (line : String) : Errand Unit :=
  ExceptT.lift (Program.call (I := console) (.say line))

/-- Time as the console tells it. -/
def clock : Clock (Program console) where
  now := Program.call (I := console) .time
  sleep milliseconds := Program.call (I := console) (.sleep milliseconds)

/-- Repeats a look at something until it settles. -/
def poll (p : Polling) (condition : Errand (Option α)) : Errand α :=
  ExceptT.mk do
    match ← p.poll clock condition.run with
    | (.settled result, _) => return .ok result
    | (.failed failure, _) => return .error failure
    | (.timedOut, looks) => return .error (.timedOut (p.timeoutMessage looks))

end Errand

end ClusterLifecycle
