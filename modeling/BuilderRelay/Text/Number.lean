/-!
# Decimal numbers

Reading bounded decimal numbers from text. Digits are read from the left, so a number that leaves
its range is reported before a later character that is no digit.
-/

namespace BuilderRelay.Text

inductive NumberFault where
  | empty
  | invalidDigit
  | tooLarge
  | tooSmall
  deriving DecidableEq, Repr

def NumberFault.message : NumberFault → String
  | .empty => "cannot parse integer from empty string"
  | .invalidDigit => "invalid digit found in string"
  | .tooLarge => "number too large to fit in target type"
  | .tooSmall => "number too small to fit in target type"

def digitValue (c : Char) : Option Nat :=
  if '0' ≤ c ∧ c ≤ '9' then some (c.toNat - '0'.toNat) else none

def readDigits (limit : Nat) (overflow : NumberFault) (value : Nat) :
    List Char → Except NumberFault Nat
  | [] => .ok value
  | c :: rest =>
      match digitValue c with
      | none => .error .invalidDigit
      | some d =>
          if value * 10 + d ≤ limit then readDigits limit overflow (value * 10 + d) rest
          else .error overflow

/-- A number of at most `limit`, with an optional plus sign. -/
def readUnsigned (limit : Nat) (text : String) : Except NumberFault Nat :=
  match text.toList with
  | [] => .error .empty
  | ['+'] => .error .invalidDigit
  | '+' :: digits => readDigits limit .tooLarge 0 digits
  | digits => readDigits limit .tooLarge 0 digits

def readUInt64 (text : String) : Except NumberFault UInt64 :=
  (readUnsigned (UInt64.size - 1) text).map UInt64.ofNat

def readUInt16 (text : String) : Except NumberFault UInt16 :=
  (readUnsigned (UInt16.size - 1) text).map UInt16.ofNat

def int64Bound : Nat := 9223372036854775808

/-- A number from `-2⁶³` to `2⁶³ - 1`, with an optional sign. -/
def readInt64 (text : String) : Except NumberFault Int :=
  match text.toList with
  | [] => .error .empty
  | ['+'] => .error .invalidDigit
  | ['-'] => .error .invalidDigit
  | '-' :: digits => (readDigits int64Bound .tooSmall 0 digits).map fun n => -(n : Int)
  | '+' :: digits => (readDigits (int64Bound - 1) .tooLarge 0 digits).map Int.ofNat
  | digits => (readDigits (int64Bound - 1) .tooLarge 0 digits).map Int.ofNat

end BuilderRelay.Text
