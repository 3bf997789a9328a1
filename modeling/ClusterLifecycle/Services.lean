import ClusterLifecycle.Credential
import ClusterLifecycle.Manifest
import ClusterLifecycle.Program

/-!
What lifecycle operations ask of their surroundings: the objects of the management cluster, the
application credentials of the identity service, and the records of the clusters.
-/

namespace ClusterLifecycle

inductive ServiceRequest where
  /-- Creates the object, or updates it to the manifest. -/
  | apply (m : Manifest)
  /-- Removes the object; one that is not there counts as removed. -/
  | delete (target : ObjectRef)
  | get (target : ObjectRef)
  | findCredential (user name : String)
  | createCredential (user name description : String)
  | deleteCredential (user id : String)
  | saveCluster (c : Cluster)
  | saveNodeGroup (id : Uuid) (g : NodeGroup)

namespace ServiceRequest

def Answer : ServiceRequest → Type
  | apply _ | delete _ | deleteCredential .. | saveCluster _ | saveNodeGroup .. => Result Unit
  | get _ => Result Json
  | findCredential .. | createCredential .. => Result ApplicationCredential

/-- The answer that nothing but an error gives. -/
def refuse (e : Error) : (q : ServiceRequest) → q.Answer
  | apply _ | delete _ | deleteCredential .. | saveCluster _ | saveNodeGroup .. => .error e
  | get _ => .error e
  | findCredential .. | createCredential .. => .error e

end ServiceRequest

abbrev services : Interface := ⟨ServiceRequest, ServiceRequest.Answer⟩

/-- What is done by asking the services, until one of them fails. -/
abbrev Operation := ExceptT Error (Program services)

namespace Operation

variable {α : Type}

def ask (q : ServiceRequest) : Program services q.Answer := Program.call (I := services) q

def applyObject (m : Manifest) : Operation Unit := ExceptT.mk (ask (.apply m))

def deleteObject (target : ObjectRef) : Operation Unit := ExceptT.mk (ask (.delete target))

def getObject (target : ObjectRef) : Operation Json := ExceptT.mk (ask (.get target))

def findCredential (user name : String) : Operation ApplicationCredential :=
  ExceptT.mk (ask (.findCredential user name))

def createCredential (user name description : String) : Operation ApplicationCredential :=
  ExceptT.mk (ask (.createCredential user name description))

def deleteCredential (user id : String) : Operation Unit :=
  ExceptT.mk (ask (.deleteCredential user id))

def saveCluster (c : Cluster) : Operation Unit := ExceptT.mk (ask (.saveCluster c))

def saveNodeGroup (id : Uuid) (g : NodeGroup) : Operation Unit :=
  ExceptT.mk (ask (.saveNodeGroup id g))

/-- Takes the error that something does not exist for an answer. -/
def orAbsent (op : Operation α) : Operation (Option α) :=
  ExceptT.mk do
    match ← op.run with
    | .ok a => return .ok (some a)
    | .error e => return if e.isNotFound then .ok none else .error e

end Operation

end ClusterLifecycle
