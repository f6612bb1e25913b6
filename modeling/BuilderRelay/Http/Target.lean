/-!
# Request targets

The path of a request target. Targets come as a path, as an absolute address, as a bare authority,
or as an asterisk; a query and a fragment do not belong to the path.
-/

namespace BuilderRelay.Http

def isPathEnd (c : Char) : Bool := c = '?' || c = '#'

def afterScheme (target : List Char) : Option (List Char) :=
  match target.dropWhile (· ≠ ':') with
  | ':' :: '/' :: '/' :: rest => some rest
  | _ => none

/-- The path of a target; a bare authority has none, an address without a path has the root. -/
def targetPath (target : List Char) : List Char :=
  let path := target.takeWhile (!isPathEnd ·)
  match target with
  | '/' :: _ => path
  | ['*'] => path
  | _ =>
      match afterScheme target with
      | none => []
      | some rest =>
          match (rest.dropWhile fun c => !isPathEnd c && c ≠ '/').takeWhile (!isPathEnd ·) with
          | [] => ['/']
          | path => path

def splitPath : List Char → List (List Char)
  | [] => [[]]
  | c :: rest =>
      if c = '/' then [] :: splitPath rest
      else
        match splitPath rest with
        | part :: parts => (c :: part) :: parts
        | [] => [[c]]

end BuilderRelay.Http
