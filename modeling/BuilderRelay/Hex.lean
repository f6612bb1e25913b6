import BuilderRelay.Data.Bytes
import BuilderRelay.Text.Quoted

/-!
# Hexadecimal texts

Byte strings as lower-case hexadecimal digits, and the prefixed form operators write: `0x` and at
least one pair of digits. A rejected text is blamed on the first of five causes that applies.
-/

namespace BuilderRelay.Hex

def digit (n : Nat) : Char := if n < 10 then Char.ofNat (48 + n) else Char.ofNat (87 + n)

def value (c : Char) : Option Nat :=
  if '0' ≤ c ∧ c ≤ '9' then some (c.toNat - 48)
  else if 'a' ≤ c ∧ c ≤ 'f' then some (c.toNat - 87)
  else if 'A' ≤ c ∧ c ≤ 'F' then some (c.toNat - 55)
  else none

def digits (bytes : Bytes) : List Char :=
  bytes.flatMap fun b => [digit (b.toNat / 16), digit (b.toNat % 16)]

def encode (bytes : Bytes) : String := .ofList (digits bytes)

def encodePrefixed (bytes : Bytes) : String := "0x" ++ encode bytes

/-- The bytes of pairs of digits, when all are digits and their number is even. -/
def decodeDigits : List Char → Option Bytes
  | [] => some []
  | [_] => none
  | high :: low :: rest => do
      let h ← value high
      let l ← value low
      let tail ← decodeDigits rest
      return UInt8.ofNat (h * 16 + l) :: tail

inductive Fault where
  | empty
  | noPrefix
  | noDigits
  | badCharacter (c : Char)
  | oddLength
  deriving DecidableEq, Repr

def Fault.message : Fault → String
  | .empty => "empty hex string"
  | .noPrefix => "hex string without 0x prefix"
  | .noDigits => "hex string \"0x\" has no digits"
  | .badCharacter c => "invalid hex character " ++ Text.quoteChar c
  | .oddLength => "odd number of digits"

def stripPrefix : List Char → Option (List Char)
  | '0' :: 'x' :: rest => some rest
  | '0' :: 'X' :: rest => some rest
  | _ => none

/-- The bytes of a prefixed text. The characters are looked at before their number. -/
def decodePrefixed (text : String) : Except Fault Bytes :=
  if text.toList = [] then .error .empty
  else
    match stripPrefix text.toList with
    | none => .error .noPrefix
    | some [] => .error .noDigits
    | some (c :: rest) =>
        match (c :: rest).find? fun c => (value c).isNone with
        | some bad => .error (.badCharacter bad)
        | none =>
            match decodeDigits (c :: rest) with
            | some bytes => .ok bytes
            | none => .error .oddLength

end BuilderRelay.Hex
