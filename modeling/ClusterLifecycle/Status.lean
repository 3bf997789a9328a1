import ClusterLifecycle.Error

/-!
Lifecycle status of clusters and node groups: an action and how far it has come, written
`<ACTION>_<PHASE>`.
-/

namespace ClusterLifecycle

open Text

inductive Action where
  | create | update | delete
deriving DecidableEq, Repr

inductive Phase where
  | inProgress | complete | failed
deriving DecidableEq, Repr

structure Status where
  action : Action
  phase : Phase
deriving DecidableEq, Repr

def Action.toString : Action → String
  | create => "CREATE"
  | update => "UPDATE"
  | delete => "DELETE"

def Phase.toString : Phase → String
  | inProgress => "IN_PROGRESS"
  | complete => "COMPLETE"
  | failed => "FAILED"

def Action.ofString? : String → Option Action
  | "CREATE" => some create
  | "UPDATE" => some update
  | "DELETE" => some delete
  | _ => none

def Phase.ofString? : String → Option Phase
  | "IN_PROGRESS" => some inProgress
  | "COMPLETE" => some complete
  | "FAILED" => some failed
  | _ => none

namespace Status

def createInProgress : Status := ⟨.create, .inProgress⟩
def updateInProgress : Status := ⟨.update, .inProgress⟩
def deleteInProgress : Status := ⟨.delete, .inProgress⟩
def deleteComplete : Status := ⟨.delete, .complete⟩

def withPhase (s : Status) (phase : Phase) : Status := { s with phase }

/-- The action has finished, successfully or not. -/
def isTerminal (s : Status) : Bool := s.phase ≠ .inProgress

def isComplete (s : Status) : Bool := s.phase = .complete

protected def toString (s : Status) : String := s.action.toString ++ "_" ++ s.phase.toString

instance : ToString Status := ⟨Status.toString⟩

/-- The first underscore ends the action; the action is judged before the phase. -/
def parse (text : String) : Result Status :=
  match splitAtFirst '_' text.toList with
  | none => .error (.malformed "status" ("'" ++ text ++ "' has no action prefix"))
  | some (before, after) =>
    let action := String.ofList before
    let phase := String.ofList after
    match Action.ofString? action, Phase.ofString? phase with
    | none, _ =>
      .error (.malformed "status" ("unknown action '" ++ action ++ "' in '" ++ text ++ "'"))
    | _, none =>
      .error (.malformed "status" ("unknown phase '" ++ phase ++ "' in '" ++ text ++ "'"))
    | some action, some phase => .ok ⟨action, phase⟩

end Status

end ClusterLifecycle
