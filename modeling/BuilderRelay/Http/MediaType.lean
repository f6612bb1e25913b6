/-!
# Media types

Whether the content type of a message says that the message is JSON: an application type whose
subtype, or the suffix of it, is `json`. Parameters do not matter, but they have to be well-formed.
-/

namespace BuilderRelay.Http

def isTokenChar (c : Char) : Bool :=
  c.isAlphanum || ['!', '#', '$', '%', '&', '\x27', '+', '-', '.', '^', '_', '|', '~'].contains c ||
    c.toNat = 0x60

def isQuotedChar (c : Char) : Bool := 0x20 ≤ c.toNat && c.toNat < 0x7f

inductive ParameterState where
  | start
  | name
  | valueStart
  | value
  | quotedStart
  | quoted
  | afterQuoted
  deriving DecidableEq, Repr

def ParameterState.canEnd : ParameterState → Bool
  | start => true
  | valueStart => true
  | value => true
  | afterQuoted => true
  | _ => false

def ParameterState.next (s : ParameterState) (c : Char) : Option ParameterState :=
  match s with
  | .start => if c = ' ' then some .start else if isTokenChar c then some .name else none
  | .name => if c = '=' then some .valueStart else if isTokenChar c then some .name else none
  | .valueStart =>
      if c = '"' then some .quotedStart else if isTokenChar c then some .value else none
  | .value => if c = ';' then some .start else if isTokenChar c then some .value else none
  | .quotedStart => if isQuotedChar c then some .quoted else none
  | .quoted =>
      if c = '"' then some .afterQuoted else if isQuotedChar c then some .quoted else none
  | .afterQuoted =>
      if c = ';' then some .start else if c = ' ' then some .afterQuoted else none

def parametersFrom (s : ParameterState) : List Char → Bool
  | [] => s.canEnd
  | c :: rest =>
      match s.next c with
      | none => false
      | some s => parametersFrom s rest

/-- What stands before the last plus sign, if one is there, and what stands after it. -/
def splitSuffix (subtype : List Char) : List Char × Option (List Char) :=
  match subtype.reverse.dropWhile (· ≠ '+') with
  | [] => (subtype, none)
  | _ :: reversed =>
      if reversed.isEmpty then (subtype, none)
      else (reversed.reverse, some (subtype.reverse.takeWhile (· ≠ '+')).reverse)

def isJsonSubtype (subtype : List Char) : Bool :=
  let (stem, suffix) := splitSuffix subtype
  stem = "json".toList || suffix = some "json".toList

/-- Whether a content type denotes JSON. Letter case does not matter. -/
def isJsonContent (contentType : String) : Bool :=
  let text := contentType.toList
  let type := text.takeWhile isTokenChar
  let lower (cs : List Char) : List Char := cs.map Char.toLower
  match text.dropWhile isTokenChar with
  | '/' :: rest =>
      let subtype := rest.takeWhile isTokenChar
      let parameters :=
        match rest.dropWhile isTokenChar with
        | [] => true
        | ';' :: more => parametersFrom .start more
        | _ => false
      lower type = "application".toList && isJsonSubtype (lower subtype) && parameters
  | _ => false

end BuilderRelay.Http
