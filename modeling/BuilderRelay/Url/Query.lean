import BuilderRelay.Url.Percent

/-!
# Queries

The names and values of a query. Plus signs stand for spaces, and bytes that are no text become
replacement characters. Of several values for a name the last one counts.
-/

namespace BuilderRelay.Query

def plusSign : UInt8 := 0x2b

def decodePart (part : List Char) : String :=
  let bytes := (Utf8.encode (.ofList part)).map fun b => if b = plusSign then 0x20 else b
  Utf8.decodeLossy (Percent.decode bytes)

def splitParts : List Char → List (List Char)
  | [] => []
  | c :: rest =>
      if c = '&' then [] :: splitParts rest
      else
        match splitParts rest with
        | part :: parts => (c :: part) :: parts
        | [] => [[c]]

def readPair (part : List Char) : String × String :=
  (decodePart (part.takeWhile (· ≠ '=')), decodePart ((part.dropWhile (· ≠ '=')).drop 1))

def pairs (query : String) : List (String × String) :=
  ((splitParts query.toList).filter (!·.isEmpty)).map readPair

def value? (name : String) (query : Option String) : Option String :=
  (pairs (query.getD "")).reverse.lookup name

end BuilderRelay.Query
