import ClusterLifecycle.Program
import ClusterLifecycle.Text.Digits

/-!
Files: what is asked of a file system, and a file system in memory that answers.
-/

namespace ClusterLifecycle

open Text

inductive FileFault where
  /-- There is nothing of that name. -/
  | missing
  /-- Any other reason. -/
  | other
deriving DecidableEq, Repr

inductive FileRequest where
  /-- Whether there is anything of that name. -/
  | present (path : String)
  | read (path : String)
  | write (path text : String)
  | rename (source target : String)
  | remove (path : String)
  /-- Makes a directory and those it is in. -/
  | makeDirectory (path : String)
  /-- The names in a directory. -/
  | list (path : String)
deriving DecidableEq, Repr

def FileRequest.Answer : FileRequest → Type
  | present _ => Bool
  | read _ => Except FileFault String
  | write .. | rename .. | remove _ | makeDirectory _ => Except FileFault Unit
  | list _ => Except FileFault (List String)

abbrev fileInterface : Interface := ⟨FileRequest, FileRequest.Answer⟩

abbrev FileProgram := Program fileInterface

namespace Files

def present (path : String) : FileProgram Bool :=
  Program.call (I := fileInterface) (.present path)

def read (path : String) : FileProgram (Except FileFault String) :=
  Program.call (I := fileInterface) (.read path)

def write (path text : String) : FileProgram (Except FileFault Unit) :=
  Program.call (I := fileInterface) (.write path text)

def rename (source target : String) : FileProgram (Except FileFault Unit) :=
  Program.call (I := fileInterface) (.rename source target)

def remove (path : String) : FileProgram (Except FileFault Unit) :=
  Program.call (I := fileInterface) (.remove path)

def makeDirectory (path : String) : FileProgram (Except FileFault Unit) :=
  Program.call (I := fileInterface) (.makeDirectory path)

def list (path : String) : FileProgram (Except FileFault (List String)) :=
  Program.call (I := fileInterface) (.list path)

/-- The path of a name in a directory. -/
def join (directory name : String) : String :=
  if directory = "" ∨ directory.toList.getLast? = some '/' then directory ++ name
  else directory ++ "/" ++ name

/-- A name without its last extension; a dot in front starts no extension. -/
def stem (name : String) : String :=
  match splitAtFirst '.' name.toList.reverse with
  | some (_, before) => if before.isEmpty then name else String.ofList before.reverse
  | none => name

end Files

inductive FileEntry where
  | file (text : String)
  | directory
deriving DecidableEq, Repr

/-- Entries by the parts of their paths, oldest first. The working directory has no parts and needs
no entry. -/
structure FileSystem where
  entries : List (List String × FileEntry) := []
deriving DecidableEq, Repr

namespace FileSystem

/-- What stands between the slashes of a path. -/
def segments (path : String) : List String := (path.toList.splitOn '/').map String.ofList

/-- Where a segment leads from the place with the parts `done`. -/
def step (done : List String) (segment : String) : List String :=
  if segment = "" ∨ segment = "." then done
  else if segment = ".." then done.dropLast
  else done ++ [segment]

/-- The parts of a path. The root directory is a part of its own, outside the working directory. -/
def parts (path : String) : List String :=
  (segments path).foldl step (if path.toList.head? = some '/' then ["/"] else [])

/-- A path that ends so leads to a directory or nowhere. -/
def meansDirectory (path : String) : Bool :=
  (segments path).getLast?.any (["", ".", ".."].contains ·)

def find? (fs : FileSystem) (at_ : List String) : Option FileEntry :=
  if at_.isEmpty then some .directory else fs.entries.lookup at_

/-- A file stands in the way of going further down. -/
def blocked (fs : FileSystem) (at_ : List String) : Bool :=
  (List.range at_.length).any fun n => fs.find? (at_.take n) matches some (.file _)

def put (fs : FileSystem) (at_ : List String) (e : FileEntry) : FileSystem :=
  if (fs.find? at_).isSome then
    ⟨fs.entries.map fun (p, old) => if p = at_ then (p, e) else (p, old)⟩
  else ⟨fs.entries ++ [(at_, e)]⟩

def erase (fs : FileSystem) (at_ : List String) : FileSystem :=
  ⟨fs.entries.filter (·.1 ≠ at_)⟩

/-- Why nothing is found at a place. -/
def absence (fs : FileSystem) (at_ : List String) : FileFault :=
  if fs.blocked at_ then .other else .missing

def read (fs : FileSystem) (at_ : List String) : Except FileFault String :=
  match fs.find? at_ with
  | some (.file text) => .ok text
  | some .directory => .error .other
  | none => .error (fs.absence at_)

def write (fs : FileSystem) (at_ : List String) (text : String) : Except FileFault FileSystem :=
  match fs.find? at_, fs.find? at_.dropLast with
  | some .directory, _ => .error .other
  | _, some .directory => .ok (fs.put at_ (.file text))
  | _, _ => .error (fs.absence at_)

def rename (fs : FileSystem) (source target : List String) : Except FileFault FileSystem :=
  match fs.read source with
  | .error fault => .error fault
  | .ok text => (fs.write target text).map fun fs => if source = target then fs else fs.erase source

def remove (fs : FileSystem) (at_ : List String) : Except FileFault FileSystem :=
  (fs.read at_).map fun _ => fs.erase at_

/-- The places on the way to a place, from the working directory on and with the place itself. -/
def way (at_ : List String) : List (List String) := (List.range (at_.length + 1)).map at_.take

/-- One directory, when those it is in are there. -/
def makeOne (fs : FileSystem) (at_ : List String) : Except FileFault FileSystem :=
  match fs.find? at_ with
  | some (.file _) => .error .other
  | some .directory => .ok fs
  | none => .ok (fs.put at_ .directory)

def makeDirectory (fs : FileSystem) (at_ : List String) : Except FileFault FileSystem :=
  (way at_).foldlM makeOne fs

def list (fs : FileSystem) (at_ : List String) : Except FileFault (List String) :=
  match fs.find? at_ with
  | some .directory =>
    .ok (fs.entries.filterMap fun (p, _) => if p.dropLast = at_ then p.getLast? else none)
  | some (.file _) => .error .other
  | none => .error (fs.absence at_)

/-- A change that fails leaves all as it was. -/
def change (fs : FileSystem) : Except FileFault FileSystem → Except FileFault Unit × FileSystem
  | .ok fs => (.ok (), fs)
  | .error fault => (.error fault, fs)

/-- A file does not answer to a path that means a directory, and nothing to the empty one. -/
def present (fs : FileSystem) (path : String) : Bool :=
  match fs.find? (parts path) with
  | some .directory => path ≠ ""
  | some (.file _) => !meansDirectory path
  | none => false

def answer : (q : FileRequest) → FileSystem → q.Answer × FileSystem
  | .present path, fs => (fs.present path, fs)
  | .read path, fs => (if meansDirectory path then .error .other else fs.read (parts path), fs)
  | .write path text, fs =>
    fs.change (if meansDirectory path then .error .other else fs.write (parts path) text)
  | .rename source target, fs => fs.change (fs.rename (parts source) (parts target))
  | .remove path, fs => fs.change (fs.remove (parts path))
  | .makeDirectory path, fs => fs.change (fs.makeDirectory (parts path))
  | .list path, fs => (if path = "" then .error .missing else fs.list (parts path), fs)

def run {α : Type} (p : FileProgram α) (fs : FileSystem) : α × FileSystem :=
  p.run (I := fileInterface) answer fs

/-- A file with the directories it is in, if nothing stands in its way. -/
def withFile (fs : FileSystem) (path text : String) : Option FileSystem :=
  let at_ := parts path
  match (fs.makeDirectory at_.dropLast).bind fun fs => fs.write at_ text with
  | .ok fs => some fs
  | .error _ => none

end FileSystem

end ClusterLifecycle
