import ClusterLifecycle.Yaml.Token.Lexer

/-!
A YAML text as a tree. Aliases stay in it as references to what they stand for.
-/

namespace ClusterLifecycle.Yaml

inductive Node where
  | scalar (tag : Option String) (text : String) (plain : Bool)
  | sequence (tag : Option String) (items : List Node)
  | mapping (tag : Option String) (fields : List (Node × Node))
  /-- The anchored node with that number. -/
  | alias (number : Nat)
deriving Repr

def Node.empty : Node := .scalar none "" true

structure Document where
  root : Node
  /-- Anchored nodes by number, the last one first. -/
  anchored : List (Nat × Node)
deriving Repr

/-- What an alias stands for; any other node stands for itself. -/
def Document.resolve (d : Document) : Node → Node
  | .alias number => (d.anchored.lookup number).getD .empty
  | node => node

/-- The tokens still to be read, and the names given so far. -/
structure TokenReader where
  tokens : List Token
  /-- What each tag handle stands for. -/
  handles : List (String × String)
  /-- The number that each anchor name has at present. -/
  names : List (String × Nat) := []
  anchored : List (Nat × Node) := []

abbrev TokenRead := StateT TokenReader Option

namespace TokenRead

def peek : TokenRead (Option Token) := return (← get).tokens.head?

def skip : TokenRead Unit := modify fun s => { s with tokens := s.tokens.drop 1 }

/-- The next token, if it is `t`, is passed. -/
def passIf (t : Token) : TokenRead Bool := do
  if (← peek) = some t then skip; return true else return false

def expect (t : Token) : TokenRead Unit := do
  if !(← passIf t) then failure

/-- Gives a name to the node that comes next. Numbers count the names there are; a name given
again takes the next number. -/
def reserve (name : Option String) : TokenRead (Option Nat) := do
  match name with
  | none => return none
  | some name =>
    let s ← get
    let number := s.names.length
    set { s with names := (name, number) :: s.names.filter (·.1 ≠ name) }
    return some number

/-- Keeps the node under its number. -/
def record (number : Option Nat) (n : Node) : TokenRead Node := do
  match number with
  | none => return n
  | some number =>
    modify fun s => { s with anchored := (number, n) :: s.anchored }
    return n

def fullTag (handle suffix : String) : TokenRead String := do
  if handle = "" then return suffix
  else match (← get).handles.lookup handle with
    | some start => return start ++ suffix
    | none => failure

def tag? : TokenRead (Option (String × String)) := do
  match ← peek with
  | some (.tag handle suffix) => skip; return some (handle, suffix)
  | _ => return none

def anchor? : TokenRead (Option String) := do
  match ← peek with
  | some (.anchor name) => skip; return some name
  | _ => return none

/-- An anchor and a tag, in either order. -/
def properties : TokenRead (Option String × Option String) := do
  let early ← anchor?
  let tag ← tag?
  let anchor ← if early.isSome || tag.isNone then pure early else anchor?
  match tag with
  | none => return (anchor, none)
  | some (handle, suffix) => return (anchor, some (← fullTag handle suffix))

/-- Whether an entry ends before it has begun. -/
def atAny (ends : List Token) : TokenRead Bool := do
  match ← peek with
  | some t => return ends.contains t
  | none => return false

mutual

/-- A node; `block` lets it be in block style, and `indentless` lets a sequence be no further
indented than the key before it. -/
def node (fuel : Nat) (block indentless : Bool) : TokenRead Node :=
  match fuel with
  | 0 => failure
  | fuel + 1 => do
    if let some (.alias name) ← peek then
      skip
      match (← get).names.lookup name with
      | some number => return .alias number
      | none => failure
    else
      let (anchor, tag) ← properties
      let number ← reserve anchor
      match ← peek with
      | some (.scalar text plain) =>
        skip
        record number (.scalar tag text plain)
      | some .flowSequence =>
        skip
        record number (.sequence tag (← flowItems fuel true))
      | some .flowMapping =>
        skip
        record number (.mapping tag (← flowFields fuel true))
      | some .item =>
        if indentless then record number (.sequence tag (← indentlessItems fuel))
        else orEmpty number anchor tag
      | some .blockSequence =>
        if block then
          skip
          record number (.sequence tag (← blockItems fuel))
        else orEmpty number anchor tag
      | some .blockMapping =>
        if block then
          skip
          record number (.mapping tag (← blockFields fuel))
        else orEmpty number anchor tag
      | _ => orEmpty number anchor tag

/-- An anchor or a tag alone makes an empty node. -/
def orEmpty (number : Option Nat) (anchor tag : Option String) : TokenRead Node :=
  if anchor.isSome || tag.isSome then record number (.scalar tag "" true) else failure

def blockItems : Nat → TokenRead (List Node)
  | 0 => failure
  | fuel + 1 => do
    if ← passIf .item then
      let item ←
        if ← atAny [.item, .blockEnd] then pure Node.empty else node fuel true false
      return item :: (← blockItems fuel)
    else
      expect .blockEnd
      return []

def indentlessItems : Nat → TokenRead (List Node)
  | 0 => failure
  | fuel + 1 => do
    if ← passIf .item then
      let item ←
        if ← atAny [.item, .key, .value, .blockEnd] then pure Node.empty
        else node fuel true false
      return item :: (← indentlessItems fuel)
    else return []

def blockFields : Nat → TokenRead (List (Node × Node))
  | 0 => failure
  | fuel + 1 => do
    if ← passIf .key then
      let ends := [Token.key, .value, .blockEnd]
      let key ← if ← atAny ends then pure Node.empty else node fuel true true
      let value ←
        if ← passIf .value then
          if ← atAny ends then pure Node.empty else node fuel true true
        else pure Node.empty
      return (key, value) :: (← blockFields fuel)
    else
      expect .blockEnd
      return []

def flowItems (fuel : Nat) (first : Bool) : TokenRead (List Node) :=
  match fuel with
  | 0 => failure
  | fuel + 1 => do
    if ← passIf .flowSequenceEnd then return []
    else
      if !first then expect .comma
      if ← passIf .flowSequenceEnd then return []
      else
        let item ← if ← passIf .key then flowPair fuel else node fuel false false
        return item :: (← flowItems fuel false)

/-- An item that is a key with its value. A missing key takes the token in its place with it. -/
def flowPair : Nat → TokenRead Node
  | 0 => failure
  | fuel + 1 => do
    let key ←
      if ← atAny [.value, .comma, .flowSequenceEnd] then do skip; pure Node.empty
      else node fuel false false
    let value ←
      if ← passIf .value then
        if ← atAny [.comma, .flowSequenceEnd] then pure Node.empty else node fuel false false
      else pure Node.empty
    return .mapping none [(key, value)]

def flowFields (fuel : Nat) (first : Bool) : TokenRead (List (Node × Node)) :=
  match fuel with
  | 0 => failure
  | fuel + 1 => do
    if ← passIf .flowMappingEnd then return []
    else
      if !first then expect .comma
      if ← passIf .flowMappingEnd then return []
      else if ← passIf .key then
        let ends := [Token.comma, .flowMappingEnd]
        let key ← if ← atAny (.value :: ends) then pure Node.empty else node fuel false false
        let value ←
          if ← passIf .value then
            if ← atAny ends then pure Node.empty else node fuel false false
          else pure Node.empty
        return (key, value) :: (← flowFields fuel false)
      else
        let key ← node fuel false false
        return (key, Node.empty) :: (← flowFields fuel false)

end

/-- The directives in front of a document: at most one version, which is 1.1 or 1.2, and each
handle once. -/
def directives (versionSeen : Bool) :
    List (String × String) → List Token → Option (List (String × String) × List Token)
  | handles, .version major minor :: rest =>
    if versionSeen || major ≠ 1 || (minor ≠ 1 && minor ≠ 2) then none
    else directives true handles rest
  | handles, .handle handle start :: rest =>
    if (handles.lookup handle).isSome then none
    else directives versionSeen (handles ++ [(handle, start)]) rest
  | handles, tokens => some (handles, tokens)

end TokenRead

open TokenRead in
/-- The one document of a text. A text with none, with several or with a fault has no reading. -/
def document? (text : List Char) : Option Document := do
  let all ← tokens? text
  let (handles, tokens) ← directives false [] all
  let marked := tokens.head? = some .documentStart
  if all.isEmpty || (tokens.length < all.length && !marked) then none
  else
    let content : TokenRead Node := do
      let marked ← passIf .documentStart
      if marked && !(startsNode <$> (← peek)).getD false then return .empty
      else node (2 * tokens.length + 2) true false
    let handles := handles ++ [("!", "!"), ("!!", "tag:yaml.org,2002:")]
    let (root, s) ← content.run { tokens, handles }
    if s.tokens.all (· = .documentEnd) then some ⟨root, s.anchored⟩ else none
where
  /-- Not the end of the document, nor the start of another one. -/
  startsNode : Token → Bool
    | .version .. | .handle .. | .documentStart | .documentEnd => false
    | _ => true

end ClusterLifecycle.Yaml
