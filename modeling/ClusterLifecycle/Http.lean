import ClusterLifecycle.Json
import ClusterLifecycle.Program
import ClusterLifecycle.Text.Utf8

/-!
HTTP: the requests that are made, and how they are answered.
-/

namespace ClusterLifecycle

namespace Http

inductive Method where
  | get | post | patch | delete
deriving DecidableEq, Repr

namespace Method

protected def toString : Method → String
  | get => "GET"
  | post => "POST"
  | patch => "PATCH"
  | delete => "DELETE"

instance : ToString Method := ⟨Method.toString⟩

end Method

structure Request where
  method : Method
  /-- A whole URL, or a path with its query where the server is settled. -/
  target : String
  contentType : Option String := none
  /-- The token that the sender is known by. -/
  token : Option String := none
  body : Option Json := none

/-- What an answer carries. -/
structure Body where
  bytes : List UInt8
deriving DecidableEq, Repr

instance : Coe String Body := ⟨fun text => ⟨Text.utf8 text.toList⟩⟩

namespace Body

/-- The text that the bytes are. -/
def text? (b : Body) : Option String := String.fromUTF8? ⟨b.bytes.toArray⟩

/-- The text; marks stand in it for bytes that stand for no character. -/
def text (b : Body) : String :=
  b.text?.getD (String.ofList ((Text.characters none b.bytes).map (·.getD '\ufffd')))

end Body

structure Response where
  status : Nat
  headers : List (String × String) := []
  body : Body := ""
deriving DecidableEq, Repr

namespace Response

def isSuccess (r : Response) : Bool := 200 ≤ r.status && r.status < 300

/-- The sender or the server is at fault. -/
def isFailure (r : Response) : Bool := 400 ≤ r.status && r.status < 600

/-- The first header of a name, in whatever case. -/
def header? (r : Response) (name : String) : Option String :=
  (r.headers.find? fun (n, _) => n.toLower = name.toLower).map (·.2)

end Response

/-- A request that gets no whole response is answered by none. -/
abbrev exchange : Interface := ⟨Request, fun _ => Option Response⟩

def send (r : Request) : Program exchange (Option Response) := Program.call (I := exchange) r

end Http

end ClusterLifecycle
