import ClusterLifecycle.Services
import ClusterLifecycle.Store

/-!
A world in memory that answers what lifecycle operations ask. Objects are kept by their full
references, credentials by user and name, records by a keeper of one's choice.
-/

namespace ClusterLifecycle

/-- A way of keeping records in a state. -/
structure Keeper (ρ : Type) where
  save : Cluster → ρ → Result Unit × ρ
  saveNodeGroup : Uuid → NodeGroup → ρ → Result Unit × ρ
  remove : Uuid → ρ → Result Unit × ρ
  load : Uuid → ρ → Result Cluster

/-- Keeps records in the files of a store. -/
def Keeper.files (store : Store) (now : Timestamp) : Keeper FileSystem where
  save c fs := fs.run (store.save now c)
  saveNodeGroup id g fs := fs.run (store.saveNodeGroup now id g)
  remove id fs := fs.run (store.remove id)
  load id fs := (fs.run (store.load id)).1

/-- Records by their identities; the last one saved comes first. -/
abbrev Records := List (Uuid × Cluster)

namespace Records

def insert (records : Records) (c : Cluster) : Records :=
  (c.uuid, c) :: records.filter (·.1 ≠ c.uuid)

def load (records : Records) (id : Uuid) : Result Cluster :=
  match records.lookup id with
  | some c => .ok c
  | none => .error (.notFound "Cluster" id.toString)

end Records

/-- Keeps records as they are. -/
def Keeper.memory : Keeper Records where
  save c records := (.ok (), records.insert c)
  saveNodeGroup id g records :=
    match records.load id with
    | .ok c => (.ok (), records.insert (c.withNodeGroup g))
    | .error e => (.error e, records)
  remove id records := (.ok (), records.filter (·.1 ≠ id))
  load id records := records.load id

/-- A credential of a user. -/
structure HeldCredential where
  user : String
  credential : ApplicationCredential
deriving DecidableEq, Repr

structure World (ρ : Type) where
  objects : List (ObjectRef × Json) := []
  credentials : List HeldCredential := []
  /-- How many credentials have been created. -/
  issued : Nat := 0
  /-- Credentials come without their secrets. -/
  secretless : Bool := false
  records : ρ

namespace World

variable {ρ : Type}

def object? (w : World ρ) (target : ObjectRef) : Option Json := w.objects.lookup target

def put (w : World ρ) (target : ObjectRef) (body : Json) : World ρ :=
  { w with objects := (target, body) :: w.objects.filter (·.1 ≠ target) }

def remove (w : World ρ) (target : ObjectRef) : World ρ :=
  { w with objects := w.objects.filter (·.1 ≠ target) }

/-- The body of a manifest; what is reported about the object is none of the manifest's. -/
def applied (w : World ρ) (m : Manifest) : Json :=
  match (w.object? m.target).bind fun body => body.get? "status" with
  | some status => m.toJson.set "status" status
  | none => m.toJson

def find? (w : World ρ) (user name : String) : Option ApplicationCredential :=
  (w.credentials.find? fun held => held.user = user && held.credential.name = name).map
    (·.credential)

def isHeld (w : World ρ) (user id : String) : Bool :=
  w.credentials.any fun held => held.user = user && held.credential.id = id

/-- Creating counts up: the number names the credential and its secret. A credential of the same
name is replaced. -/
def create (w : World ρ) (user name description : String) : ApplicationCredential × World ρ :=
  let number := toString (w.issued + 1)
  let credential : ApplicationCredential :=
    { id := "cred-" ++ number, name, description := some description
      secret := if w.secretless then none else some ("secret-" ++ number) }
  let others := w.credentials.filter fun held => !(held.user = user && held.credential.name = name)
  (credential, { w with credentials := ⟨user, credential⟩ :: others, issued := w.issued + 1 })

def revoke (w : World ρ) (user id : String) : World ρ :=
  { w with credentials := w.credentials.filter fun held =>
      !(held.user = user && held.credential.id = id) }

def notFound {α : Type} (kind name : String) : Option α → Result α
  | some a => .ok a
  | none => .error (.notFound kind name)

def answer (keeper : Keeper ρ) : (q : ServiceRequest) → World ρ → q.Answer × World ρ
  | .apply m, w => (.ok (), w.put m.target (w.applied m))
  | .delete target, w => (.ok (), w.remove target)
  | .get target, w => (notFound target.kind target.name (w.object? target), w)
  | .findCredential user name, w =>
    (notFound "ApplicationCredential" name (w.find? user name), w)
  | .createCredential user name description, w =>
    let (credential, w) := w.create user name description
    (.ok credential, w)
  | .deleteCredential user id, w =>
    if w.isHeld user id then (.ok (), w.revoke user id)
    else (.error (.notFound "ApplicationCredential" id), w)
  | .saveCluster c, w =>
    let (r, records) := keeper.save c w.records
    (r, { w with records })
  | .saveNodeGroup id g, w =>
    let (r, records) := keeper.saveNodeGroup id g w.records
    (r, { w with records })

end World

end ClusterLifecycle
