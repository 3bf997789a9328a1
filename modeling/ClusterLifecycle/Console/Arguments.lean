import ClusterLifecycle.Cluster
import ClusterLifecycle.Text.Digits

/-!
The command line: options, operands and commands.
-/

namespace ClusterLifecycle

open Text

namespace Arguments

/-- Why a command line starts no command. -/
inductive Refusal where
  /-- It asks how to use the program. -/
  | help
  | misuse
deriving DecidableEq, Repr

/-- An option, which may be given once. -/
structure Flag where
  name : String
  letter : Option Char := none
  takesValue : Bool := true
deriving DecidableEq, Repr

/-- What a command line, or the part of it that belongs to a command, may hold. -/
structure Shape where
  flags : List Flag := []
  operands : Nat := 0
  /-- Where there are commands, one of them takes the rest of the line. -/
  commands : List String := []

structure Reading where
  /-- The options that are given; those that take no value have an empty one. -/
  values : List (String × String) := []
  operands : List String := []
  command : Option (String × List String) := none
deriving DecidableEq, Repr

def Reading.addValue (r : Reading) (f : Flag) (value : String) : Except Refusal Reading :=
  if (r.values.lookup f.name).isSome then .error .misuse
  else .ok { r with values := r.values ++ [(f.name, value)] }

def Reading.addOperands (r : Reading) (s : Shape) (more : List String) : Except Refusal Reading :=
  if r.operands.length + more.length ≤ s.operands then
    .ok { r with operands := r.operands ++ more }
  else .error .misuse

/-- What an argument is, by its form alone. -/
inductive Form where
  /-- All that follow are operands. -/
  | separator
  | long (name : List Char) (value : Option (List Char))
  | letters (letters : List Char)
  | word
deriving DecidableEq, Repr

def formOf : List Char → Form
  | ['-', '-'] => .separator
  | '-' :: '-' :: text =>
    match splitAtFirst '=' text with
    | some (name, value) => .long name (some value)
    | none => .long text none
  | ['-'] => .word
  | '-' :: letters => .letters letters
  | _ => .word

/-- An option given by its name. `true` says that its value is to follow. -/
def readLong (s : Shape) (r : Reading) (name : String) (value : Option String) :
    Except Refusal (Reading × Option Flag) :=
  match s.flags.find? (·.name = name), value with
  | none, none => .error (if name = "help" then .help else .misuse)
  | none, some _ => .error .misuse
  | some f, value =>
    match f.takesValue, value with
    | true, some value => (r.addValue f value).map (·, none)
    | true, none => .ok (r, some f)
    | false, none => (r.addValue f "").map (·, none)
    | false, some _ => .error .misuse

/-- Options given by their letters; a value may stand right behind its letter. -/
def readLetters (s : Shape) (r : Reading) : List Char → Except Refusal (Reading × Option Flag)
  | [] => .ok (r, none)
  | letter :: rest =>
    match s.flags.find? (·.letter = some letter) with
    | none => .error (if letter = 'h' then .help else .misuse)
    | some f =>
      if f.takesValue then
        match rest with
        | [] => .ok (r, some f)
        | '=' :: value | value => (r.addValue f (String.ofList value)).map (·, none)
      else (r.addValue f "").bind fun r => readLetters s r rest

/-- Reads arguments in order. `due` is an option whose value comes next. -/
def read (s : Shape) (r : Reading) : (due : Option Flag) → List String → Except Refusal Reading
  | none, [] => .ok r
  | some _, [] => .error .misuse
  | some f, argument :: rest =>
    if formOf argument.toList = .word then
      (r.addValue f argument).bind fun r => read s r none rest
    else .error .misuse
  | none, argument :: rest =>
    match formOf argument.toList with
    | .separator => r.addOperands s rest
    | .long name value => do
      let (r, due) ← readLong s r (String.ofList name) (value.map String.ofList)
      read s r due rest
    | .letters letters => do
      let (r, due) ← readLetters s r letters
      read s r due rest
    | .word =>
      if s.commands.contains argument then .ok { r with command := some (argument, rest) }
      else if !s.commands.isEmpty then
        .error (if argument = "help" then .help else .misuse)
      else (r.addOperands s [argument]).bind fun r => read s r none rest

end Arguments

inductive Command where
  | init (record : String)
  | create (record : String)
  | delete (id : Uuid)
  | status (id : Uuid)
  /-- Times are in seconds. -/
  | watch (id : Uuid) (timeout interval : Nat)
  | list
  | createGroup (id : Uuid) (g : NodeGroup)
  | deleteGroup (id : Uuid) (name : String)
  | groupStatus (id : Uuid) (name : String)
  | provides
deriving DecidableEq, Repr

/-- What one run of the program is asked to do. -/
structure Invocation where
  config : String
  /-- Asks for the finest messages too; every message of this program is said without it. -/
  verbose : Bool
  command : Command
deriving DecidableEq, Repr

namespace Arguments

/-- Anything that reads as a value of its kind, or else misuse. -/
def need {α : Type} : Option α → Except Refusal α
  | some a => .ok a
  | none => .error .misuse

def path (text : String) : Option String := if text = "" then none else some text

/-- Digits, perhaps after a plus. -/
def natural? (bound : Nat) (text : String) : Option Nat :=
  let digits := match text.toList with
    | '+' :: rest => rest
    | digits => digits
  (number? 10 digits).filter (· < bound)

/-- Digits, perhaps after a sign, that stand for no negative number. -/
def count? (bound : Nat) (text : String) : Option Nat :=
  match text.toList with
  | '-' :: digits => (number? 10 digits).filter (· = 0)
  | _ => natural? bound text

variable {α : Type}

/-- The value of an option, or what stands in for it. -/
def valueOf (r : Reading) (name : String) (default_ : α) (read? : String → Option α) :
    Except Refusal α :=
  match r.values.lookup name with
  | some text => need (read? text)
  | none => .ok default_

def recordFile (rest : List String) : Except Refusal String := do
  let r ← read { flags := [⟨"cluster", none, true⟩] } {} none rest
  valueOf r "cluster" "cluster.yaml" path

/-- The operands: an identity, and names after it. -/
def operands (flags : List Flag) (names : Nat) (rest : List String) :
    Except Refusal (Uuid × List String × Reading) := do
  let r ← read { flags, operands := names + 1 } {} none rest
  match r.operands with
  | [] => .error .misuse
  | id :: others =>
    if others.length < names then .error .misuse
    else return (← need (Uuid.ofString? id), others, r)

def groupCommand (rest : List String) : Except Refusal Command := do
  let r ← read { commands := ["create", "delete", "status"] } {} none rest
  match r.command with
  | some ("create", rest) =>
    let flags := [⟨"role", none, true⟩, ⟨"count", none, true⟩, ⟨"flavor", none, true⟩]
    let (id, names, r) ← operands flags 1 rest
    let role ← valueOf r "role" .worker Role.ofString?
    let count ← valueOf r "count" 1 (count? (Nat.pow 2 32))
    return .createGroup id {
      name := names.headD "", role, nodeCount := .ofNat count, flavor := r.values.lookup "flavor" }
  | some ("delete", rest) =>
    let (id, names, _) ← operands [] 1 rest
    return .deleteGroup id (names.headD "")
  | some (_, rest) =>
    let (id, names, _) ← operands [] 1 rest
    return .groupStatus id (names.headD "")
  | none => .error .misuse

/-- A command, from its name and the arguments after it. -/
def command (name : String) (rest : List String) : Except Refusal Command := do
  match name with
  | "init" => return .init (← recordFile rest)
  | "create" => return .create (← recordFile rest)
  | "delete" => return .delete (← operands [] 0 rest).1
  | "status" => return .status (← operands [] 0 rest).1
  | "watch" =>
    let flags := [⟨"timeout", none, true⟩, ⟨"interval", none, true⟩]
    let (id, _, r) ← operands flags 0 rest
    let timeout ← valueOf r "timeout" 1800 (natural? (Nat.pow 2 64))
    let interval ← valueOf r "interval" 10 (natural? (Nat.pow 2 64))
    return .watch id timeout interval
  | "nodegroup" => groupCommand rest
  | "list" => let _ ← read {} {} none rest; return .list
  | "provides" => let _ ← read {} {} none rest; return .provides
  | _ => .error .misuse

end Arguments

/-- The options of the program stand in front of the command. -/
def Invocation.ofArguments (arguments : List String) : Except Arguments.Refusal Invocation := do
  let r ← Arguments.read {
    flags := [⟨"config", some 'c', true⟩, ⟨"verbose", some 'v', false⟩]
    commands := ["init", "create", "delete", "status", "watch", "list", "nodegroup", "provides"] }
    {} none arguments
  let config ← Arguments.valueOf r "config" "driver.yaml" Arguments.path
  let (name, rest) ← Arguments.need r.command
  return { config, verbose := (r.values.lookup "verbose").isSome
           command := ← Arguments.command name rest }

end ClusterLifecycle
