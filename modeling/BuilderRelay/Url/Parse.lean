import BuilderRelay.Url.Host

/-!
# Addresses

Reading absolute addresses into their components. Control characters and spaces at the ends do not
count, nor do tabs and line ends anywhere. Some schemes are special: they always have a host, a
default port, and backslashes that count as slashes. The components are kept in their encoded form.
-/

namespace BuilderRelay

structure Url where
  scheme : String
  username : String
  password : Option String
  host : Option Host
  /-- The port, unless it is the default of the scheme. -/
  port : Option Nat
  path : String
  /-- Whether the path is a text without hierarchy. -/
  opaquePath : Bool
  query : Option String
  fragment : Option String
  deriving DecidableEq, Repr

namespace Url

def defaultPort : String → Option Nat
  | "http" => some 80
  | "ws" => some 80
  | "https" => some 443
  | "wss" => some 443
  | "ftp" => some 21
  | _ => none

def isSpecial (scheme : String) : Bool := scheme = "file" || (defaultPort scheme).isSome

def isEdge (c : Char) : Bool := c.toNat ≤ 0x20

def isIgnored (c : Char) : Bool := c = '\t' || c = '\n' || c = '\r'

def significant (text : String) : List Char :=
  ((((text.toList.dropWhile isEdge).reverse.dropWhile isEdge).reverse).filter (!isIgnored ·))

def isSchemeChar (c : Char) : Bool :=
  c.isAlphanum || c = '+' || c = '-' || c = '.'

def splitScheme (cs : List Char) : Option (String × List Char) :=
  let name := cs.takeWhile isSchemeChar
  match cs.dropWhile isSchemeChar with
  | ':' :: rest =>
      if name.head?.any Char.isAlpha then some (.ofList (name.map Char.toLower), rest) else none
  | _ => none

/-! ## Path, query and fragment -/

def isSlash (special : Bool) (c : Char) : Bool := c = '/' || (special && c = '\\')

def isPathEnd (c : Char) : Bool := c = '?' || c = '#'

def splitSegments (special : Bool) (cs : List Char) : List (List Char) :=
  cs.foldr (fun c parts =>
    if isSlash special c then [] :: parts
    else match parts with
      | part :: rest => (c :: part) :: rest
      | [] => [[c]]) [[]]

/-- A segment with encoded dots written as dots. -/
def plainDots : List Char → List Char
  | '%' :: '2' :: 'e' :: rest => '.' :: plainDots rest
  | '%' :: '2' :: 'E' :: rest => '.' :: plainDots rest
  | c :: rest => c :: plainDots rest
  | [] => []

/-- The segments of a path without the dots that lead up or nowhere; those so far are reversed. -/
def normalSegments (done : List (List Char)) : List (List Char) → List (List Char)
  | [] => done.reverse
  | [segment] =>
      let dots := plainDots segment
      if dots = ['.', '.'] then ([] :: done.drop 1).reverse
      else if dots = ['.'] then ([] :: done).reverse
      else (segment :: done).reverse
  | segment :: rest =>
      let dots := plainDots segment
      if dots = ['.', '.'] then normalSegments (done.drop 1) rest
      else if dots = ['.'] then normalSegments done rest
      else normalSegments (segment :: done) rest

def pathText (special : Bool) (cs : List Char) : String :=
  let segments := normalSegments [] (splitSegments special cs)
  .ofList (segments.flatMap fun segment => '/' :: Percent.encode Percent.inPath segment)

def pathAfterAuthority (special : Bool) (cs : List Char) : String :=
  match cs with
  | [] => if special then "/" else ""
  | c :: rest => if isSlash special c then pathText special rest else pathText special (c :: rest)

def splitTail (special : Bool) (cs : List Char) : Option String × Option String :=
  let fragmentOf : List Char → Option String
    | '#' :: rest => some (.ofList (Percent.encode Percent.inFragment rest))
    | _ => none
  match cs with
  | '?' :: rest =>
      let set := if special then Percent.inSpecialQuery else Percent.inQuery
      (some (.ofList (Percent.encode set (rest.takeWhile (· ≠ '#')))),
        fragmentOf (rest.dropWhile (· ≠ '#')))
  | cs => (none, fragmentOf cs)

/-! ## Authority -/

def isAuthorityEnd (special : Bool) (c : Char) : Bool := isSlash special c || isPathEnd c

/-- The text up to the host ends at a colon outside brackets. -/
def hostLength : (inside : Bool) → List Char → Nat
  | _, [] => 0
  | inside, c :: rest =>
      if c = ':' ∧ !inside then 0
      else 1 + hostLength (if c = '[' then true else if c = ']' then false else inside) rest

def readPort (digits : List Char) : Except UrlFault (Option Nat) :=
  match digits with
  | [] => .ok none
  | digits =>
      if !digits.all Char.isDigit then .error .invalidPort
      else
        let n := digits.foldl (fun n c => n * 10 + (c.toNat - 48)) 0
        if n < 65536 then .ok (some n) else .error .invalidPort

structure Authority where
  username : String
  password : Option String
  host : Option Host
  port : Option Nat

def splitUserinfo (cs : List Char) : Option (List Char) × List Char :=
  if cs.contains '@' then
    let host := (cs.reverse.takeWhile (· ≠ '@')).reverse
    (some (cs.take (cs.length - host.length - 1)), host)
  else (none, cs)

/-- The username and the password, which is not there if it is empty. -/
def readUserinfo (cs : List Char) : String × Option String :=
  let encode (cs : List Char) : String := .ofList (Percent.encode Percent.inUserinfo cs)
  match cs.dropWhile (· ≠ ':') with
  | _ :: c :: rest => (encode (cs.takeWhile (· ≠ ':')), some (encode (c :: rest)))
  | _ => (encode (cs.takeWhile (· ≠ ':')), none)

def readHostPort (scheme : String) (cs : List Char) : Except UrlFault (Option Host × Option Nat) := do
  let special := isSpecial scheme
  let hostText := cs.take (hostLength false cs)
  let rest := cs.drop (hostLength false cs)
  if special ∧ hostText.isEmpty then throw .emptyHost
  let host ← if special then Host.read hostText else Host.readOpaque hostText
  match rest with
  | [] => if hostText.isEmpty then return (none, none) else return (some host, none)
  | _ :: digits =>
      if hostText.isEmpty then throw .emptyHost
      let port ← readPort digits
      return (some host, if port = defaultPort scheme then none else port)

/-- An authority; `more` says whether a path, a query or a fragment follows it. -/
def readAuthority (scheme : String) (more : Bool) (cs : List Char) : Except UrlFault Authority := do
  match splitUserinfo cs with
  | (none, hostText) =>
      let (host, port) ← readHostPort scheme hostText
      return ⟨"", none, host, port⟩
  | (some userinfo, hostText) =>
      if userinfo.isEmpty ∧ hostText.isEmpty ∧ more then throw .emptyHost
      let (username, password) := readUserinfo userinfo
      let (host, port) ← readHostPort scheme hostText
      if host.isNone ∧ (username ≠ "" ∨ password.isSome) then throw .emptyHost
      return ⟨username, password, host, port⟩

/-! ## The three kinds of schemes -/

def afterSlashes (scheme : String) (cs : List Char) : Except UrlFault Url := do
  let special := isSpecial scheme
  let rest := cs.dropWhile (!isAuthorityEnd special ·)
  let authority ← readAuthority scheme (!rest.isEmpty) (cs.takeWhile (!isAuthorityEnd special ·))
  let (query, fragment) := splitTail special (rest.dropWhile (!isPathEnd ·))
  return {
    scheme, query, fragment
    username := authority.username
    password := authority.password
    host := authority.host
    port := authority.port
    path := pathAfterAuthority special (rest.takeWhile (!isPathEnd ·))
    opaquePath := false }

def withoutAuthority (scheme : String) (cs : List Char) : Url :=
  let special := isSpecial scheme
  let text := cs.takeWhile (!isPathEnd ·)
  let (query, fragment) := splitTail special (cs.dropWhile (!isPathEnd ·))
  let (path, opaquePath) :=
    match text with
    | '/' :: rest => (pathText special rest, false)
    | text => if special then (pathText special text, false)
        else (.ofList (Percent.encode Percent.isControl text), true)
  { scheme, query, fragment, path, opaquePath
    username := "", password := none, host := none, port := none }

/-- A letter with a colon or a bar, which names a drive and no host. -/
def isDriveLetter : List Char → Bool
  | [letter, mark] => letter.isAlpha && (mark = ':' || mark = '|')
  | _ => false

def readFile (cs : List Char) : Except UrlFault Url := do
  match cs with
  | a :: b :: rest =>
      if isSlash true a ∧ isSlash true b then
        let hostText := rest.takeWhile (!isAuthorityEnd true ·)
        let path := rest.dropWhile (!isAuthorityEnd true ·)
        if isDriveLetter hostText ∨ hostText.isEmpty then
          return withoutAuthority "file" ('/' :: (if hostText.isEmpty then path.drop 1 else rest))
        let host ← Host.read hostText
        let url := withoutAuthority "file" ('/' :: path.dropWhile (isSlash true ·))
        return { url with host := if host = .domain "localhost" then none else some host }
      else return withoutAuthority "file" cs
  | cs => return withoutAuthority "file" cs

end Url

def readUrl (text : String) : Except UrlFault Url :=
  match Url.splitScheme (Url.significant text) with
  | none => .error .relative
  | some (scheme, rest) =>
      if scheme = "file" then Url.readFile rest
      else if Url.isSpecial scheme then
        Url.afterSlashes scheme (rest.dropWhile (Url.isSlash true ·))
      else
        match rest with
        | '/' :: '/' :: rest => Url.afterSlashes scheme rest
        | rest => .ok (Url.withoutAuthority scheme rest)

end BuilderRelay
