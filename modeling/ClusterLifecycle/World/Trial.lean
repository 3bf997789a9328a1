import ClusterLifecycle.World

/-!
Trials: a world that logs what it is asked, and in which chosen requests fail.
-/

namespace ClusterLifecycle

namespace ServiceRequest

/-- The word that a request is logged under. -/
def verb : ServiceRequest → String
  | apply _ => "apply"
  | delete _ => "delete"
  | get _ => "get"
  | findCredential .. => "cred_find"
  | createCredential .. => "cred_create"
  | deleteCredential .. => "cred_delete"
  | saveCluster _ => "save_cluster"
  | saveNodeGroup .. => "save_nodegroup"

def subject : ServiceRequest → List String
  | apply m => [m.target.toString]
  | delete target | get target => [target.toString]
  | findCredential user name => [user, name]
  | createCredential user name description => [user, name, description]
  | deleteCredential user id => [user, id]
  | saveCluster c => [c.uuid.toString, c.status.toString]
  | saveNodeGroup id g => [id.toString, g.name, g.status.toString]

def line (q : ServiceRequest) : String := " ".intercalate (q.verb :: q.subject)

end ServiceRequest

/-- Requests of one verb that are to fail: those whose line holds a text, up to a number of times. -/
structure Outage where
  verb : String
  part : String
  error : Error
  times : Nat
deriving DecidableEq, Repr

def Outage.concerns (o : Outage) (q : ServiceRequest) : Bool :=
  0 < o.times && o.verb = q.verb && Text.hasPart o.part.toList q.line.toList

structure Trial (ρ : Type) where
  world : World ρ
  log : List String := []
  outages : List Outage := []

namespace Trial

variable {ρ : Type}

/-- Uses up one failure of the first outage that concerns a request. -/
def strike (q : ServiceRequest) : List Outage → Option (Error × List Outage)
  | [] => none
  | o :: rest =>
    if o.concerns q then some (o.error, { o with times := o.times - 1 } :: rest)
    else (strike q rest).map fun (e, rest) => (e, o :: rest)

/-- A request that fails is logged and has no effect. -/
def answer (keeper : Keeper ρ) (q : ServiceRequest) (t : Trial ρ) : q.Answer × Trial ρ :=
  let t := { t with log := t.log ++ [q.line] }
  match strike q t.outages with
  | some (e, outages) => (q.refuse e, { t with outages })
  | none =>
    let (a, world) := t.world.answer keeper q
    (a, { t with world })

def run {α : Type} (keeper : Keeper ρ) (p : Program services α) (t : Trial ρ) : α × Trial ρ :=
  p.run (I := services) (answer keeper) t

end Trial

end ClusterLifecycle
