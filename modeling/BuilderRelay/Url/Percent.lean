import BuilderRelay.Text.Utf8

/-!
# Percent encoding

Bytes as a percent sign and two hexadecimal digits. Decoding leaves a percent sign alone that no two
digits follow.
-/

namespace BuilderRelay.Percent

def hexDigit (b : UInt8) : Option UInt8 :=
  if 0x30 ≤ b && b ≤ 0x39 then some (b - 0x30)
  else if 0x61 ≤ b && b ≤ 0x66 then some (b - 0x57)
  else if 0x41 ≤ b && b ≤ 0x46 then some (b - 0x37)
  else none

def percentSign : UInt8 := 0x25

def decode : Bytes → Bytes
  | b :: high :: low :: tail =>
      match b == percentSign, hexDigit high, hexDigit low with
      | true, some h, some l => (h * 16 + l) :: decode tail
      | _, _, _ => b :: decode (high :: low :: tail)
  | b :: rest => b :: decode rest
  | [] => []

def upperDigit (n : Nat) : Char := if n < 10 then Char.ofNat (48 + n) else Char.ofNat (55 + n)

def encodeByte (b : UInt8) : List Char :=
  ['%', upperDigit (b.toNat / 16), upperDigit (b.toNat % 16)]

/-- A character, encoded if it is in the set or not ASCII. -/
def encodeChar (set : Char → Bool) (c : Char) : List Char :=
  if c.toNat < 0x80 ∧ !set c then [c] else (String.utf8EncodeChar c).flatMap encodeByte

def encode (set : Char → Bool) (s : List Char) : List Char := s.flatMap (encodeChar set)

/-! ## Sets of characters -/

def isControl (c : Char) : Bool := c.toNat < 0x20 || c.toNat = 0x7f

def inFragment (c : Char) : Bool := isControl c || [' ', '"', '<', '>', Char.ofNat 0x60].contains c

def inQuery (c : Char) : Bool := isControl c || [' ', '"', '#', '<', '>'].contains c

def inSpecialQuery (c : Char) : Bool := inQuery c || c = '\x27'

def inPath (c : Char) : Bool := inFragment c || ['#', '?', '\x7b', '\x7d'].contains c

def inUserinfo (c : Char) : Bool :=
  inPath c || ['/', ':', ';', '=', '@', '[', '\\', ']', '^', '|'].contains c

end BuilderRelay.Percent
