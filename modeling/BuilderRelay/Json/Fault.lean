import BuilderRelay.Data.Binary64
import BuilderRelay.Data.Bytes
import BuilderRelay.Text.Quoted

/-!
# What is wrong with a JSON text

A fault has a cause, the place in the text, and the path of keys and indices from the root to the
value being read. Causes are of three classes: the text ends too early, the text is no JSON, or it
is JSON that does not fit the type.
-/

namespace BuilderRelay.Json

inductive Unexpected where
  | null
  | boolean (b : Bool)
  | unsigned (n : Nat)
  | negative (n : Nat)
  | float (x : Binary64)
  | string (s : String)
  | sequence
  | map
  deriving DecidableEq, Repr

def Unexpected.text : Unexpected → String
  | null => "null"
  | boolean b => "boolean `" ++ toString b ++ "`"
  | unsigned n => "integer `" ++ toString n ++ "`"
  | negative n => "integer `-" ++ toString n ++ "`"
  | float x => "floating point `" ++ x.text ++ "`"
  | string s => "string " ++ Text.quote s
  | sequence => "sequence"
  | map => "map"

inductive Misfit where
  | invalidType (found : Unexpected) (expected : String)
  | invalidValue (found : Unexpected) (expected : String)
  | invalidLength (n : Nat) (expected : String)
  | missingField (name : String)
  | duplicateField (name : String)
  | custom (text : String)
  deriving DecidableEq, Repr

def Misfit.text : Misfit → String
  | invalidType found expected => "invalid type: " ++ found.text ++ ", expected " ++ expected
  | invalidValue found expected => "invalid value: " ++ found.text ++ ", expected " ++ expected
  | invalidLength n expected => "invalid length " ++ toString n ++ ", expected " ++ expected
  | missingField name => "missing field `" ++ name ++ "`"
  | duplicateField name => "duplicate field `" ++ name ++ "`"
  | custom text => text

inductive Cause where
  | endOfList
  | endOfObject
  | endOfString
  | endOfValue
  | expectedColon
  | expectedListCommaOrEnd
  | expectedObjectCommaOrEnd
  | expectedLiteral
  | expectedValue
  | invalidEscape
  | invalidNumber
  | numberOutOfRange
  | invalidCodePoint
  | controlCharacter
  | keyNotString
  | loneSurrogate
  | trailingComma
  | trailingCharacters
  | unexpectedEndOfEscape
  | misfit (m : Misfit)
  deriving DecidableEq, Repr

namespace Cause

def text : Cause → String
  | endOfList => "EOF while parsing a list"
  | endOfObject => "EOF while parsing an object"
  | endOfString => "EOF while parsing a string"
  | endOfValue => "EOF while parsing a value"
  | expectedColon => "expected `:`"
  | expectedListCommaOrEnd => "expected `,` or `]`"
  | expectedObjectCommaOrEnd => "expected `,` or `\x7d`"
  | expectedLiteral => "expected ident"
  | expectedValue => "expected value"
  | invalidEscape => "invalid escape"
  | invalidNumber => "invalid number"
  | numberOutOfRange => "number out of range"
  | invalidCodePoint => "invalid unicode code point"
  | controlCharacter => "control character (\\u0000-\\u001F) found while parsing a string"
  | keyNotString => "key must be a string"
  | loneSurrogate => "lone leading surrogate in hex escape"
  | trailingComma => "trailing comma"
  | trailingCharacters => "trailing characters"
  | unexpectedEndOfEscape => "unexpected end of hex escape"
  | misfit m => m.text

/-- Whether the text is JSON, or at least starts like JSON, of another shape. -/
def isMisfit : Cause → Bool
  | misfit _ => true
  | _ => false

end Cause

/-- Where reading stopped: what is left of the text, and whether the byte at fault is the one
before it or the first of it. -/
structure Stop where
  cause : Cause
  rest : Bytes
  ahead : Bool
  deriving DecidableEq, Repr

def stopped {α : Type} (cause : Cause) (rest : Bytes) : Except Stop α :=
  .error ⟨cause, rest, false⟩

def stoppedAhead {α : Type} (cause : Cause) (rest : Bytes) : Except Stop α :=
  .error ⟨cause, rest, true⟩

inductive Segment where
  | index (i : Nat)
  | key (name : String)
  | unknown
  deriving DecidableEq, Repr

abbrev Path := List Segment

/-- Segments after a dot, except for indices and at the start. -/
def pathText : Path → (first : Bool) → String
  | [], _ => ""
  | .index i :: rest, _ => "[" ++ toString i ++ "]" ++ pathText rest false
  | .key name :: rest, first => (if first then "" else ".") ++ name ++ pathText rest false
  | .unknown :: rest, first => (if first then "" else ".") ++ "?" ++ pathText rest false

structure Fault where
  stop : Stop
  path : Path
  deriving DecidableEq, Repr

structure Place where
  line : Nat
  column : Nat
  deriving DecidableEq, Repr

def Place.next (p : Place) (b : UInt8) : Place :=
  if b = 0x0a then ⟨p.line + 1, 0⟩ else ⟨p.line, p.column + 1⟩

def placeAfter (n : Nat) (text : Bytes) : Place := (text.take n).foldl Place.next ⟨1, 0⟩

/-- How many bytes of the text the fault lies behind; a byte ahead is counted if there is one. -/
def Stop.offset (s : Stop) (text : Bytes) : Nat :=
  text.length - if s.ahead then s.rest.tail.length else s.rest.length

def Fault.message (f : Fault) (text : Bytes) : String :=
  let place := placeAfter (f.stop.offset text) text
  s!"{f.stop.cause.text} at line {place.line} column {place.column}"

/-- The message behind the path, which is left out when no part of it is known. -/
def Fault.messageWithPath (f : Fault) (text : Bytes) : String :=
  if f.path.all (· = .unknown) then f.message text
  else pathText f.path true ++ ": " ++ f.message text

end BuilderRelay.Json
