import ClusterLifecycle.Files
import ClusterLifecycle.Record

/-!
The store of cluster records: one file for each in a directory, named by the cluster's identity.
A record is written to a temporary file that is then renamed, so a record file is never half
written.
-/

namespace ClusterLifecycle

/-- A directory of record files. -/
structure Store where
  directory : String
deriving DecidableEq, Repr

namespace Store

def path (s : Store) (id : Uuid) : String := Files.join s.directory (id.toString ++ ".yaml")

def temporaryPath (s : Store) (id : Uuid) : String := s.path id ++ ".tmp"

def load (s : Store) (id : Uuid) : FileProgram (Result Cluster) := do
  match ← Files.read (s.path id) with
  | .error .missing => return .error (.notFound "Cluster" id.toString)
  | .error .other => return .error (.persistence (s.path id) Error.foreign)
  | .ok text =>
    match Cluster.read? text with
    | some c => return .ok c
    | none => return .error (.persistence (s.path id) Error.foreign)

/-- The identities that the names in the directory begin with, up to the last dot. -/
def identities (names : List String) : List Uuid :=
  names.filterMap fun name => Uuid.ofString? (Files.stem name)

/-- Loads one after the other; the first that fails ends it. -/
def loadAll (s : Store) : List Uuid → FileProgram (Result (List Cluster))
  | [] => return .ok []
  | id :: rest => do
    match ← s.load id with
    | .error e => return .error e
    | .ok c => return (← s.loadAll rest).map (c :: ·)

/-- All records in ascending order of their names. -/
def list (s : Store) : FileProgram (Result (List Cluster)) := do
  match ← Files.list s.directory with
  | .error .missing => return .ok []
  | .error .other => return .error (.persistence s.directory Error.foreign)
  | .ok names =>
    return (← s.loadAll (identities names)).map fun clusters =>
      clusters.mergeSort fun a b => a.name ≤ b.name

/-- A record that is not there counts as removed. -/
def remove (s : Store) (id : Uuid) : FileProgram (Result Unit) := do
  match ← Files.remove (s.path id) with
  | .ok () | .error .missing => return .ok ()
  | .error .other => return .error (.persistence id.toString Error.foreign)

/-- Writes the record and then puts it in place. -/
def write (s : Store) (c : Cluster) : FileProgram (Result Unit) := do
  let failed : Result Unit := .error (.persistence c.uuid.toString Error.foreign)
  let .ok () ← Files.makeDirectory s.directory | return failed
  let .ok () ← Files.write (s.temporaryPath c.uuid) c.render | return failed
  let .ok () ← Files.rename (s.temporaryPath c.uuid) (s.path c.uuid) | return failed
  return .ok ()

def save (s : Store) (now : Timestamp) (c : Cluster) : FileProgram (Result Unit) :=
  s.write { c with updatedAt := some now }

def saveNodeGroup (s : Store) (now : Timestamp) (id : Uuid) (g : NodeGroup) : FileProgram (Result Unit) := do
  match ← s.load id with
  | .error e => return .error e
  | .ok c => s.save now (c.withNodeGroup g)

end Store

end ClusterLifecycle
