import ClusterLifecycle.Url

/-!
Reading URLs: text that stands on its own, or that is taken relative to another URL.
-/

namespace ClusterLifecycle.Url

open Text Domain

variable [Naming]

/-- Controls and spaces at the ends count for nothing, nor do tabs and line breaks anywhere. -/
def clean (text : List Char) : List Char :=
  let blank (c : Char) : Bool := c.toNat ≤ 0x20
  let trimmed := ((text.dropWhile blank).reverse.dropWhile blank).reverse
  trimmed.filter fun c => c ≠ '\t' && c ≠ '\n' && c ≠ '\r'

def isSchemeCharacter (c : Char) : Bool :=
  c.isAlpha || isDecimalDigit c || c = '+' || c = '-' || c = '.'

/-- A scheme, in small letters, and what follows its colon. -/
def splitScheme? (text : List Char) : Option (List Char × List Char) :=
  if text.head?.any Char.isAlpha then
    match text.dropWhile isSchemeCharacter with
    | ':' :: rest => some ((text.takeWhile isSchemeCharacter).map Char.toLower, rest)
    | _ => none
  else none

/-- The text before the first mark, and the text behind it, if there is one. -/
def cut (mark : Char) (text : List Char) : List Char × Option (List Char) :=
  match splitAtFirst mark text with
  | some (before, after) => (before, some after)
  | none => (text, none)

def isSlash (special : Bool) (c : Char) : Bool := c = '/' || special && c = '\\'

/-- The text before the last `@`, if there is one, and the text behind it. -/
def splitCredentials (text : List Char) : Option (List Char) × List Char :=
  match splitAtFirst '@' text.reverse with
  | some (after, before) => (some before.reverse, after.reverse)
  | none => (none, text)

/-- The host, and the port behind the first colon that is not in brackets. -/
def splitPort (inBrackets : Bool) : List Char → List Char × Option (List Char)
  | [] => ([], none)
  | c :: rest =>
    if c = ':' && !inBrackets then ([], some rest)
    else
      let (host, port) := splitPort (c = '[' || inBrackets && c ≠ ']') rest
      (c :: host, port)

/-- The number of a port; none for the scheme's own. -/
def port? (scheme digits : List Char) : Option (Option Nat) :=
  if digits.isEmpty then some none
  else if digits.all isDecimalDigit then do
    let n ← (number? 10 digits).filter (· < 65536)
    some (if defaultPort? scheme = some n then none else some n)
  else none

/-- The user, the password, the host and the port of `user:password@host:port`. -/
def authority? (scheme text : List Char) : Option (List Char × List Char × Host × Option Nat) := do
  let (credentials, place) := splitCredentials text
  let (username, password) := cut ':' (credentials.getD [])
  let (host, port) := splitPort false place
  if host.isEmpty && (isSpecial scheme || credentials.isSome || port.isSome) then none
  else
    let host ← Host.ofList? (isSpecial scheme) host
    let port ← port? scheme (port.getD [])
    let encoded := Percent.encode Percent.inUserinfoSet
    some (encoded username, encoded (password.getD []), host, port)

def lower (text : List Char) : List Char := text.map Char.toLower

def isSingleDot (segment : List Char) : Bool :=
  [".", "%2e"].contains (String.ofList (lower segment))

def isDoubleDot (segment : List Char) : Bool :=
  ["..", ".%2e", "%2e.", "%2e%2e"].contains (String.ofList (lower segment))

/-- Follows segments from where `done` leads; one dot stays there, two go back. -/
def follow (done : List (List Char)) : List (List Char) → List (List Char)
  | [] => done
  | [last] =>
    if isDoubleDot last then done.dropLast ++ [[]]
    else if isSingleDot last then done ++ [[]]
    else done ++ [Percent.encode Percent.inPathSet last]
  | segment :: rest =>
    if isDoubleDot segment then follow done.dropLast rest
    else if isSingleDot segment then follow done rest
    else follow (done ++ [Percent.encode Percent.inPathSet segment]) rest

def splitSegments (special : Bool) (text : List Char) : List (List Char) :=
  splitAll '/' (if special then text.map fun c => if c = '\\' then '/' else c else text)

/-- The path behind an authority. -/
def rootPath (special : Bool) (text : List Char) : Path :=
  match text with
  | [] => .segments (if special then [[]] else [])
  | c :: rest => .segments (follow [] (splitSegments special (if isSlash special c then rest else text)))

def queryOf (scheme : List Char) (query : Option (List Char)) : Option (List Char) :=
  query.map <| Percent.encode <|
    if isSpecial scheme then Percent.inSpecialQuerySet else Percent.inQuerySet

def fragmentOf (fragment : Option (List Char)) : Option (List Char) :=
  fragment.map (Percent.encode Percent.inFragmentSet)

/-- A URL from what follows the slashes of its authority. -/
def ofAuthority? (scheme text : List Char) (query fragment : Option (List Char)) : Option Url := do
  let special := isSpecial scheme
  let (username, password, host, port) ← authority? scheme (text.takeWhile (!isSlash special ·))
  let path := rootPath special (text.dropWhile (!isSlash special ·))
  some { scheme, username, password, host := some host, port, path
         query := queryOf scheme query, fragment := fragmentOf fragment }

def isDriveLetter : List Char → Bool
  | [letter, mark] => letter.isAlpha && (mark = ':' || mark = '|')
  | _ => false

/-- A URL of a file from what follows its scheme. A host that is a drive letter is part of the path,
and the machine itself needs no name. -/
def ofFile? (text : List Char) (query fragment : Option (List Char)) : Option Url := do
  let scheme := "file".toList
  let url (host : Host) (path : List Char) : Url :=
    { scheme, host := some host, port := none, path := rootPath true path
      query := queryOf scheme query, fragment := fragmentOf fragment }
  match text with
  | a :: b :: rest =>
    if isSlash true a && isSlash true b then
      let name := rest.takeWhile (!isSlash true ·)
      if name.isEmpty || isDriveLetter name then some (url (.verbatim []) rest)
      else
        let host ← Host.ofList? true name
        let host := if host = .domain "localhost".toList then .verbatim [] else host
        some (url host (rest.dropWhile (!isSlash true ·)))
    else some (url (.verbatim []) text)
  | _ => some (url (.verbatim []) text)

/-- What follows the scheme of a URL that is not special. -/
def ofPlain? (scheme text : List Char) (query fragment : Option (List Char)) : Option Url :=
  match text with
  | '/' :: '/' :: rest => ofAuthority? scheme rest query fragment
  | _ =>
    some {
      scheme, host := none, port := none
      path :=
        if text.head? = some '/' then rootPath false text
        else .verbatim (Percent.encode Percent.inControlSet text)
      query := queryOf scheme query, fragment := fragmentOf fragment }

/-- Text taken relative to a URL. -/
def relativeTo? (base : Url) (text : List Char) (query fragment : Option (List Char)) : Option Url :=
  let special := isSpecial base.scheme
  let at_ (path : Path) : Url :=
    { base with path, query := queryOf base.scheme query, fragment := fragmentOf fragment }
  match base.path, text with
  | .verbatim _, text =>
    if text.isEmpty && query.isNone && fragment.isSome then
      some { base with fragment := fragmentOf fragment }
    else none
  | .segments parts, [] =>
    some { at_ (.segments parts) with
      query := if query.isSome then queryOf base.scheme query else base.query }
  | .segments parts, c :: rest =>
    if isSlash special c then
      if rest.head?.any (isSlash special) then
        ofAuthority? base.scheme
          (if special then rest.dropWhile (isSlash special) else rest.drop 1) query fragment
      else some (at_ (rootPath special text))
    else some (at_ (.segments (follow parts.dropLast (splitSegments special text))))

/-- Reads a URL; text without a scheme needs one that it is relative to. -/
def parse? (base : Option Url) (text : List Char) : Option Url := do
  let (text, fragment) := cut '#' (clean text)
  let (text, query) := cut '?' text
  match splitScheme? text with
  | none => relativeTo? (← base) text query fragment
  | some (scheme, rest) =>
    if scheme = "file".toList then ofFile? rest query fragment
    else if isSpecial scheme then
      match base with
      | some base =>
        if base.scheme = scheme && (dropStart? ['/', '/'] rest).isNone then
          relativeTo? base rest query fragment
        else ofAuthority? scheme (rest.dropWhile (isSlash true)) query fragment
      | none => ofAuthority? scheme (rest.dropWhile (isSlash true)) query fragment
    else ofPlain? scheme rest query fragment

def ofString? (text : String) : Option Url := parse? none text.toList

/-- The URL that a text means where this one is. -/
def join? (base : Url) (text : String) : Option Url := parse? (some base) text.toList

end ClusterLifecycle.Url
