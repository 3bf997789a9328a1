import ClusterLifecycle.Json
import ClusterLifecycle.Text.Digits
import ClusterLifecycle.Yaml.Value

/-!
JSON as text, with no blanks or with a line for each item; and JSON values as YAML, with fields in ascending order.
-/

namespace ClusterLifecycle.Json

open Text

/-- Quotes, backslashes and control characters are escaped. -/
def escaped (c : Char) : List Char :=
  if c = '"' then ['\\', '"']
  else if c = '\\' then ['\\', '\\']
  else if c = '\n' then ['\\', 'n']
  else if c.toNat < 0x20 then '\\' :: 'u' :: upperHex 4 c.toNat
  else [c]

def quote (s : String) : String := String.ofList ('"' :: s.toList.flatMap escaped ++ ['"'])

def Number.render : Number → String
  | .whole n => toString n
  | .decimal negative mantissa exponent =>
    (if negative then "-" else "") ++ toString mantissa ++ "e" ++ toString exponent

mutual

def render : Json → String
  | null => "null"
  | bool b => if b then "true" else "false"
  | number n => n.render
  | string s => quote s
  | array items => "[" ++ String.intercalate "," (renderItems items) ++ "]"
  | object fields => "\x7b" ++ String.intercalate "," (renderFields fields) ++ "\x7d"

def renderItems : List Json → List String
  | [] => []
  | item :: rest => render item :: renderItems rest

def renderFields : List (String × Json) → List String
  | [] => []
  | (name, value) :: rest => (quote name ++ ":" ++ render value) :: renderFields rest

end

/-- Lines between brackets, two blanks further in. -/
def block (depth : Nat) (first last : String) (lines : List String) : String :=
  let line (depth : Nat) (text : String) := "\n" ++ String.ofList (List.replicate (2 * depth) ' ') ++ text
  if lines.isEmpty then first ++ last
  else first ++ ",".intercalate (lines.map (line (depth + 1))) ++ line depth last

mutual

def prettyAt (depth : Nat) : Json → String
  | array items => block depth "[" "]" (prettyItems (depth + 1) items)
  | object fields => block depth "\x7b" "\x7d" (prettyFields (depth + 1) fields)
  | j => j.render

def prettyItems (depth : Nat) : List Json → List String
  | [] => []
  | item :: rest => prettyAt depth item :: prettyItems depth rest

def prettyFields (depth : Nat) : List (String × Json) → List String
  | [] => []
  | (name, value) :: rest =>
    (quote name ++ ": " ++ prettyAt depth value) :: prettyFields depth rest

end

def pretty (j : Json) : String := prettyAt 0 j

/-- Puts a field in its place among fields in ascending order. -/
def insertSorted {α : Type} (name : String) (value : α) : List (String × α) → List (String × α)
  | [] => [(name, value)]
  | (n, v) :: rest =>
    if name < n then (name, value) :: (n, v) :: rest
    else if name = n then (n, v) :: rest
    else (n, v) :: insertSorted name value rest

mutual

/-- The same value as YAML, the fields of each object in ascending order. -/
def toYaml : Json → Yaml.Value
  | null => .word "null"
  | bool b => .word (if b then "true" else "false")
  | number n => .word n.render
  | string s => .text s
  | array items => .sequence (itemsToYaml items)
  | object fields => .mapping (fieldsToYaml fields)

def itemsToYaml : List Json → List Yaml.Value
  | [] => []
  | item :: rest => toYaml item :: itemsToYaml rest

def fieldsToYaml : List (String × Json) → List (String × Yaml.Value)
  | [] => []
  | (name, value) :: rest => insertSorted name (toYaml value) (fieldsToYaml rest)

end

end ClusterLifecycle.Json
