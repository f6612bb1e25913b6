import BuilderRelay.Json.Lexical

/-!
# Values nobody asked for

Passing over a value of any shape and depth. The brackets that are still open are kept in a list, so
depth costs no recursion. Every round takes at least one byte, so the text itself bounds their
number: the first argument is a text at least as long as what is left.
-/

namespace BuilderRelay.Json

inductive Bracket where
  | square
  | curly
  deriving DecidableEq, Repr

def Bracket.closing : Bracket → UInt8
  | square => 0x5d
  | curly => 0x7d

def Bracket.endCause : Bracket → Cause
  | square => .endOfList
  | curly => .endOfObject

def Bracket.commaCause : Bracket → Cause
  | square => .expectedListCommaOrEnd
  | curly => .expectedObjectCommaOrEnd

def skipKey (rest : Bytes) : Except Stop Bytes :=
  match skipBlank rest with
  | [] => stoppedAhead .endOfObject []
  | b :: tail =>
      if b ≠ 0x22 then stoppedAhead .keyNotString (b :: tail)
      else
        match skipString tail with
        | .error stop => .error stop
        | .ok rest =>
            match skipBlank rest with
            | [] => stoppedAhead .endOfObject []
            | c :: more => if c = 0x3a then .ok more else stoppedAhead .expectedColon (c :: more)

def skipLead : Bracket → Bytes → Except Stop Bytes
  | .square, rest => .ok rest
  | .curly, rest => skipKey rest

/-- Passes over a value without parts that starts with `b`; `none` when no such value does. -/
def skipScalar (b : UInt8) (tail : Bytes) : Option (Except Stop Bytes) :=
  if b = 0x6e then some (readLiteral afterN tail)
  else if b = 0x74 then some (readLiteral afterT tail)
  else if b = 0x66 then some (readLiteral afterF tail)
  else if b = 0x2d then some (skipNumber tail)
  else if isDigit b then some (skipNumber (b :: tail))
  else if b = 0x22 then some (skipString tail)
  else none

def openingBracket (b : UInt8) : Option Bracket :=
  if b = 0x5b then some .square else if b = 0x7b then some .curly else none

mutual

/-- Passes over the value at the front, and then over what the open brackets still ask for. -/
def skipValueIn (fuel : Bytes) (enclosing : List Bracket) (rest : Bytes) : Except Stop Bytes :=
  match fuel with
  | [] => stoppedAhead .endOfValue rest
  | _ :: fuel =>
      match skipBlank rest with
      | [] => stoppedAhead .endOfValue []
      | b :: tail =>
          match openingBracket b with
          | some bracket =>
              match skipBlank tail with
              | [] => stoppedAhead bracket.endCause []
              | c :: more =>
                  if c = bracket.closing then skipAfter fuel enclosing more
                  else
                    match skipLead bracket (c :: more) with
                    | .error stop => .error stop
                    | .ok rest => skipValueIn fuel (bracket :: enclosing) rest
          | none =>
              match skipScalar b tail with
              | none => stoppedAhead .expectedValue (b :: tail)
              | some (.error stop) => .error stop
              | some (.ok rest) => skipAfter fuel enclosing rest

/-- Passes over a comma and another value, or a closing bracket, as the innermost bracket asks. -/
def skipAfter (fuel : Bytes) (enclosing : List Bracket) (rest : Bytes) : Except Stop Bytes :=
  match enclosing with
  | [] => .ok rest
  | bracket :: outer =>
      match fuel with
      | [] => stoppedAhead bracket.endCause rest
      | _ :: fuel =>
          match skipBlank rest with
          | [] => stoppedAhead bracket.endCause []
          | b :: tail =>
              if b = 0x2c then
                match skipLead bracket tail with
                | .error stop => .error stop
                | .ok rest => skipValueIn fuel (bracket :: outer) rest
              else if b = bracket.closing then skipAfter fuel outer tail
              else stoppedAhead bracket.commaCause (b :: tail)

end

def skipValue (rest : Bytes) : Except Stop Bytes := skipValueIn rest [] rest

end BuilderRelay.Json
