import ClusterLifecycle.Host.Program
import Std.Time.DateTime.Timestamp

/-!
The program on a machine with files, a clock and a terminal. There is no way out of the machine: as
without a network, no request is answered.
-/

namespace ClusterLifecycle.Machine

/-- What goes wrong becomes part of the answer. -/
def attempt {α : Type} (action : IO α) : IO (Except FileFault α) := do
  try
    return .ok (← action)
  catch
    | .noFileOrDirectory .. => return .error .missing
    | _ => return .error .other

/-- The names in a directory, which is taken from the working directory. -/
def names (path : String) : IO (List String) := do
  let entries ← ((← IO.currentDir) / path).readDir
  return entries.toList.map (·.fileName)

def answerFile : (q : FileRequest) → IO q.Answer
  | .present path => do return ← ((← IO.currentDir) / path).pathExists
  | .read path => attempt (IO.FS.readFile path)
  | .write path text => attempt (IO.FS.writeFile path text)
  | .rename source target => attempt (IO.FS.rename source target)
  | .remove path => attempt (IO.FS.removeFile path)
  | .makeDirectory path => attempt (IO.FS.createDirAll path)
  | .list path => attempt (names path)

def now : IO Timestamp := do
  let now ← Std.Time.Timestamp.now
  let nanoseconds := now.toNanosecondsSinceUnixEpoch.val
  return .ofUnix (nanoseconds.fdiv 1000000000) (nanoseconds.fmod 1000000000).toNat

/-- Of the fourth version: all but the marks of that is random. -/
def freshUuid : IO Uuid := do
  let bytes := (← IO.getRandomBytes 16).toList.map (·.toNat)
  let number := bytes.foldl (fun n byte => n * 256 + byte) 0
  let digits := (List.range 32).map fun place =>
    let digit := number / Nat.pow 16 (31 - place) % 16
    Text.hexDigit (if place = 12 then 4 else if place = 16 then 8 + digit % 4 else digit)
  return (Uuid.ofString? (String.ofList digits)).getD .nil

/-- Sleeps for any number of milliseconds. -/
def sleep (milliseconds : Nat) : IO Unit := do
  for _ in List.range (milliseconds / 1000000) do
    IO.sleep 1000000
  IO.sleep (.ofNat (milliseconds % 1000000))

def answer : (q : HostRequest) → IO q.Answer
  | .file q => answerFile q
  | .management .. | .identity _ => return (none : Option Http.Response)
  | .log level line => IO.println (level.toString ++ " " ++ line)
  | .print text => IO.print text
  | .now => now
  | .time => (IO.monoMsNow : IO Nat)
  | .sleep milliseconds => sleep milliseconds
  | .freshUuid => freshUuid

/-- The variables that the program looks at. -/
def environment : IO Environment := do
  let names := ["OS_USERNAME", "OS_PASSWORD", "OS_PROJECT_NAME", "KUBECONFIG", "HOME"]
  let values ← names.mapM fun name => return (name, ← IO.getEnv name)
  return fun name => (values.lookup name).join

end ClusterLifecycle.Machine

def main (arguments : List String) : IO UInt32 := do
  let env ← ClusterLifecycle.Machine.environment
  let code ← (ClusterLifecycle.Host.program arguments env).interpret ClusterLifecycle.Machine.answer
  return .ofNat code
