import ClusterLifecycle.Url.Address
import ClusterLifecycle.Url.Percent

/-!
Hosts of URLs.
-/

namespace ClusterLifecycle.Url

inductive Host where
  | domain (name : List Char)
  | address4 (address : Nat)
  | address6 (pieces : List Nat)
  /-- A host of a scheme that gives it no meaning. -/
  | verbatim (text : List Char)
deriving DecidableEq, Repr

namespace Host

open Text

variable [Naming]

def isForbidden (c : Char) : Bool :=
  ['\x00', '\t', '\n', '\r', ' ', '#', '/', ':', '<', '>', '?', '@', '[', '\\', ']', '^',
    '|'].contains c

def isForbiddenInDomain (c : Char) : Bool :=
  isForbidden c || c.toNat < 0x20 || c = '%' || c = '\x7f'

/-- A domain name, or the address that it is. -/
def ofDomain? (text : List Char) : Option Host := do
  let decoded ← String.fromUTF8? ⟨(Percent.decode text).toArray⟩
  let name ← Naming.toAscii? decoded.toList
  if name.isEmpty || name.any isForbiddenInDomain then none
  else if endsInNumber name then (Address4.ofList? name).map address4
  else some (domain name)

/-- Brackets hold an address of 128 bits. `special` schemes have domain names. -/
def ofList? (special : Bool) : List Char → Option Host
  | '[' :: rest =>
    if rest.getLast? = some ']' then (Address6.ofList? rest.dropLast).map address6 else none
  | text =>
    if special then ofDomain? text
    else if text.any isForbidden then none
    else some (verbatim (Percent.encode Percent.inControlSet text))

def toList : Host → List Char
  | domain name => name
  | address4 address => Address4.toList address
  | address6 pieces => '[' :: Address6.toList pieces ++ [']']
  | verbatim text => text

end Host

end ClusterLifecycle.Url
