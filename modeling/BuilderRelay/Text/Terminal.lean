/-!
# Texts for terminals

Removing terminal control from a text: escape sequences as a whole, and every control character
but white space.
-/

namespace BuilderRelay.Text

/-- Where in an escape sequence a character stands. -/
inductive EscapeState where
  | ground
  | escape
  | intermediate
  | control
  | string
  deriving DecidableEq, Repr

def isAsciiSpace (c : Char) : Bool :=
  c = '\t' || c = '\n' || c = '\x0c' || c = '\r' || c = ' '

def isShown (c : Char) : Bool := (c.toNat ≥ 0x20 && c.toNat ≠ 0x7f) || isAsciiSpace c

def EscapeState.next (s : EscapeState) (c : Char) : EscapeState :=
  let n := c.toNat
  if n = 0x1b then .escape
  else if n = 0x18 ∨ n = 0x1a then .ground
  else
    match s with
    | .ground => .ground
    | .escape =>
        if c = '[' then .control
        else if c = 'P' ∨ c = ']' ∨ c = 'X' ∨ c = '^' ∨ c = '_' then .string
        else if 0x20 ≤ n ∧ n ≤ 0x2f then .intermediate
        else if 0x30 ≤ n ∧ n ≤ 0x7e then .ground
        else .escape
    | .intermediate => if 0x30 ≤ n ∧ n ≤ 0x7e then .ground else .intermediate
    | .control => if 0x40 ≤ n ∧ n ≤ 0x7e then .ground else .control
    | .string => if n = 0x07 then .ground else .string

/-- Characters of a text that starts in the given state. White space ends a sequence that is not a
string. -/
def plainChars (s : EscapeState) : List Char → List Char
  | [] => []
  | c :: rest =>
      match s with
      | .ground =>
          if c.toNat = 0x1b then plainChars .escape rest
          else if isShown c then c :: plainChars .ground rest
          else plainChars .ground rest
      | .string => plainChars (s.next c) rest
      | _ =>
          if isAsciiSpace c ∧ c ≠ ' ' ∨ c.toNat ≥ 0x80 then c :: plainChars .ground rest
          else plainChars (s.next c) rest

def withoutControl (s : String) : String := .ofList (plainChars .ground s.toList)

/-- The first line, without its end. -/
def firstLine (s : String) : String :=
  let line := s.toList.takeWhile (· ≠ '\n')
  if line.length < s.toList.length ∧ line.getLast? = some '\r' then .ofList line.dropLast
  else .ofList line

end BuilderRelay.Text
