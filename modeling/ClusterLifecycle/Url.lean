import ClusterLifecycle.Url.Host

/-!
URLs in their parts, and as text.
-/

namespace ClusterLifecycle

namespace Url

inductive Path where
  /-- What follows a scheme without a slash. -/
  | verbatim (text : List Char)
  | segments (parts : List (List Char))
deriving DecidableEq, Repr

end Url

/-- All parts are percent-encoded. -/
structure Url where
  scheme : List Char
  username : List Char := []
  password : List Char := []
  host : Option Url.Host
  /-- Absent where it is the scheme's own. -/
  port : Option Nat
  path : Url.Path
  query : Option (List Char)
  fragment : Option (List Char)
deriving DecidableEq, Repr

namespace Url

open Text

/-- Schemes with a meaning of their own, and their ports. -/
def specialPorts : List (List Char × Option Nat) :=
  [("http".toList, some 80), ("https".toList, some 443), ("ws".toList, some 80),
    ("wss".toList, some 443), ("ftp".toList, some 21), ("file".toList, none)]

def isSpecial (scheme : List Char) : Bool := specialPorts.any (·.1 = scheme)

def defaultPort? (scheme : List Char) : Option Nat := (specialPorts.lookup scheme).join

def Path.toList : Path → List Char
  | .verbatim text => text
  | .segments parts => parts.flatMap ('/' :: ·)

def marked (mark : Char) : Option (List Char) → List Char
  | none => []
  | some text => mark :: text

/-- User, password, host and port, as they stand behind two slashes. -/
def authority (u : Url) (host : Host) : List Char :=
  let credentials :=
    if u.username.isEmpty && u.password.isEmpty then []
    else u.username ++ (if u.password.isEmpty then [] else ':' :: u.password) ++ ['@']
  credentials ++ host.toList ++ marked ':' (u.port.map decimal)

/-- A path that starts with two slashes is kept from looking like a host. -/
def beforePath (u : Url) : List Char :=
  match u.host, u.path with
  | some host, _ => '/' :: '/' :: u.authority host
  | none, .segments ([] :: _ :: _) => ['/', '.']
  | none, _ => []

def toList (u : Url) : List Char :=
  u.scheme ++ ':' :: u.beforePath ++ u.path.toList ++ marked '?' u.query ++ marked '#' u.fragment

protected def toString (u : Url) : String := String.ofList u.toList

instance : ToString Url := ⟨Url.toString⟩

end Url

end ClusterLifecycle
