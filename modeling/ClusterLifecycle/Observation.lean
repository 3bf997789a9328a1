import ClusterLifecycle.Json.Fields
import ClusterLifecycle.Labels
import ClusterLifecycle.Resource

/-!
What the management cluster reports about its objects. A part that has not been reported yet stays
absent; what a caller needs and does not find is malformed state, never a silent default. Each part
may stand as an object or, its fields in their order, as an array.
-/

namespace ClusterLifecycle

open Json

/-- An object as it was fetched. -/
structure ObservedObject where
  target : ObjectRef
  data : Json

structure Condition where
  type : String
  status : String
  reason : Option String
  message : Option String
deriving DecidableEq, Repr

/-- Where the API of a cluster is served. -/
structure Endpoint where
  host : String
  port : UInt16
deriving DecidableEq, Repr

structure ClusterObservation where
  /-- The object that was looked at, as errors name it. -/
  object : String
  conditions : List Condition
  endpoint : Option Endpoint
deriving DecidableEq, Repr

structure ControlPlaneObservation where
  object : String
  ready : Bool
  failureMessage : Option String
  version : Option String
deriving DecidableEq, Repr

/-- How far a deployment of machines has come. -/
inductive DeploymentPhase where
  | scalingUp | scalingDown | running | failed | unknown
  /-- A phase that is not documented. -/
  | other (text : String)
deriving DecidableEq, Repr

structure DeploymentObservation where
  object : String
  phase : DeploymentPhase
deriving DecidableEq, Repr

namespace ObservedObject

/-- Data of another shape is malformed, for a reason that its reader words. -/
def decode {α : Type} (o : ObservedObject) (read? : Json → Option α) : Result α :=
  match read? o.data with
  | some a => .ok a
  | none => .error (.malformed o.target.toString Error.foreign)

end ObservedObject

def Condition.ofJson? : Json → Option Condition :=
  arranged? ["type", "status", "reason", "message"] fun j => do
    some {
      type := ← j.requiredText? "type"
      status := ← j.requiredText? "status"
      reason := ← j.optionalText? "reason"
      message := ← j.optionalText? "message" }

def Endpoint.ofJson? : Json → Option Endpoint := arranged? ["host", "port"] fun j => do
  some {
    host := ← j.defaulted? "host" "" string?
    port := .ofNat (← j.defaulted? "port" 0 (natural? (Nat.pow 2 16))) }

namespace ClusterObservation

def endpoint? : Json → Option (Option Endpoint) :=
  arranged? ["controlPlaneEndpoint"] fun spec =>
    spec.optional? "controlPlaneEndpoint" Endpoint.ofJson?

def conditions? : Json → Option (List Condition) :=
  arranged? ["conditions"] fun status =>
    status.defaulted? "conditions" [] (items? Condition.ofJson?)

def decode (o : ObservedObject) : Result ClusterObservation :=
  o.decode <| arranged? ["spec", "status"] fun j => do
    some {
      object := o.target.toString
      endpoint := ← j.defaulted? "spec" none endpoint?
      conditions := ← j.defaulted? "status" [] conditions? }

/-- The status of each type of condition; the last condition of a type counts. -/
def statuses (o : ClusterObservation) : Labels :=
  Labels.ofList (o.conditions.map fun c => (c.type, c.status))

def controlPlaneReady (o : ClusterObservation) : Bool :=
  o.statuses.get? "ControlPlaneReady" = some "True"

/-- The address of the API, once both parts of the endpoint are set. -/
def apiAddress (o : ClusterObservation) : Result String :=
  let unset := .error (.malformed o.object "spec.controlPlaneEndpoint is not set")
  match o.endpoint with
  | some endpoint =>
    if endpoint.host ≠ "" ∧ endpoint.port ≠ 0 then
      .ok ("https://" ++ endpoint.host ++ ":" ++ toString endpoint.port.toNat)
    else unset
  | none => unset

end ClusterObservation

namespace ControlPlaneObservation

def decode (o : ObservedObject) : Result ControlPlaneObservation :=
  let object := o.target.toString
  let fresh : ControlPlaneObservation :=
    { object, ready := false, failureMessage := none, version := none }
  o.decode <| arranged? ["status"] fun j =>
    j.defaulted? "status" fresh <| arranged? ["ready", "failureMessage", "version"] fun status => do
      some {
        object
        ready := ← status.defaulted? "ready" false bool?
        failureMessage := ← status.optionalText? "failureMessage"
        version := ← status.optionalText? "version" }

/-- The Kubernetes version that is running. -/
def runningVersion (o : ControlPlaneObservation) : Result String :=
  match o.version with
  | some version => .ok version
  | none => .error (.malformed o.object "status.version is not set")

end ControlPlaneObservation

namespace DeploymentPhase

def ofString : String → DeploymentPhase
  | "ScalingUp" => scalingUp
  | "ScalingDown" => scalingDown
  | "Running" => running
  | "Failed" => failed
  | "Unknown" => unknown
  | text => other text

protected def toString : DeploymentPhase → String
  | scalingUp => "ScalingUp"
  | scalingDown => "ScalingDown"
  | running => "Running"
  | failed => "Failed"
  | unknown => "Unknown"
  | other text => text

instance : ToString DeploymentPhase := ⟨DeploymentPhase.toString⟩

def isDocumented : DeploymentPhase → Bool
  | other _ => false
  | _ => true

/-- The status that a phase gives a group of workers; a phase that is not documented says nothing. -/
def status? (p : DeploymentPhase) (current : Status) : Option Status :=
  match p with
  | scalingUp | scalingDown => some (current.withPhase .inProgress)
  | running => some (current.withPhase .complete)
  | failed | unknown => some (current.withPhase .failed)
  | other _ => none

end DeploymentPhase

namespace DeploymentObservation

def decode (o : ObservedObject) : Result DeploymentObservation := do
  let phase ← o.decode <| arranged? ["status"] fun j =>
    j.defaulted? "status" none <| arranged? ["phase"] fun status => status.optionalText? "phase"
  match phase with
  | some phase => return { object := o.target.toString, phase := .ofString phase }
  | none => throw (.malformed o.target.toString "status.phase is not set")

end DeploymentObservation

end ClusterLifecycle
