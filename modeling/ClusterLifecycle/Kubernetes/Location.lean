import ClusterLifecycle.Resource

/-!
Where objects are at an API server: paths, and what of a path can be sent.
-/

namespace ClusterLifecycle

open Text

namespace ObjectRef

/-- The path of the resource that the object belongs to. Only the core group has no name. -/
def resourcePath (r : ObjectRef) : String :=
  let root := if r.groupVersion.1 = "" then "/api/" else "/apis/"
  let scope := match r.scope with
    | some scope => "namespaces/" ++ scope ++ "/"
    | none => ""
  root ++ r.apiVersion ++ "/" ++ scope ++ r.plural

/-- The path of the object; nothing is escaped. An object without a name has none. -/
def path? (r : ObjectRef) : Option String :=
  if r.name = "" then none else some (r.resourcePath ++ "/" ++ r.name)

end ObjectRef

namespace Kubernetes

/-- Characters that a path can be sent with. -/
def isPathCharacter (c : Char) : Bool :=
  '\x21' ≤ c && !(['<', '>', '\x60'].contains c)

/-- Characters that a query can be sent with. -/
def isQueryCharacter (c : Char) : Bool :=
  '\x21' ≤ c && !(['<', '>', '"'].contains c)

/-- In bytes. -/
def maxLength : Nat := 65534

/-- What is sent of a path with its query: all in front of a number sign, if it can be sent. -/
def sendable? (text : String) : Option String :=
  let kept := text.toList.takeWhile (· ≠ '#')
  let (path, query) := (splitAtFirst '?' kept).getD (kept, [])
  if text.utf8ByteSize ≤ maxLength ∧ path.all isPathCharacter ∧ query.all isQueryCharacter then
    some (String.ofList kept)
  else none

end Kubernetes

end ClusterLifecycle
