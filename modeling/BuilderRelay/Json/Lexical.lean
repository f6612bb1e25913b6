import BuilderRelay.Json.Fault
import BuilderRelay.Text.Utf8

/-!
# The words of JSON

Space, literals, numbers and strings, read from the front of the bytes that are left. A string is
read after its opening quote; a negative number after its sign.
-/

namespace BuilderRelay.Json

def isBlank (b : UInt8) : Bool := b == 0x20 || b == 0x0a || b == 0x0d || b == 0x09

def skipBlank (rest : Bytes) : Bytes := rest.dropWhile isBlank

def readLiteral : (expected : Bytes) → (rest : Bytes) → Except Stop Bytes
  | [], rest => .ok rest
  | _ :: _, [] => stopped .endOfValue []
  | e :: expected, b :: rest => if b = e then readLiteral expected rest else stopped .expectedLiteral rest

def afterN : Bytes := [0x75, 0x6c, 0x6c]
def afterT : Bytes := [0x72, 0x75, 0x65]
def afterF : Bytes := [0x61, 0x6c, 0x73, 0x65]

def isDigit (b : UInt8) : Bool := 0x30 ≤ b && b ≤ 0x39

def digitValue (b : UInt8) : Nat := b.toNat - 0x30

def hexValue (b : UInt8) : Option Nat :=
  if 0x30 ≤ b && b ≤ 0x39 then some (b.toNat - 0x30)
  else if 0x61 ≤ b && b ≤ 0x66 then some (b.toNat - 0x57)
  else if 0x41 ≤ b && b ≤ 0x46 then some (b.toNat - 0x37)
  else none

def hexNumber (a b c d : UInt8) : Option Nat := do
  let a ← hexValue a
  let b ← hexValue b
  let c ← hexValue c
  let d ← hexValue d
  return ((a * 16 + b) * 16 + c) * 16 + d

/-! ## Numbers -/

inductive Number where
  | unsigned (n : Nat)
  | negative (n : Nat)
  | float (x : Binary64)
  deriving DecidableEq, Repr

def Number.unexpected : Number → Unexpected
  | unsigned n => .unsigned n
  | negative n => .negative n
  | float x => .float x

def uint64Limit : Nat := UInt64.size - 1

def int64Limit : Nat := 9223372036854775808

/-- Appends digits while the value fits 64 bits. Returns the value and how many digits fitted. -/
def absorb (value count : Nat) : Bytes → Nat × Nat
  | [] => (value, count)
  | b :: digits =>
      let next := value * 10 + digitValue b
      if next ≤ uint64Limit then absorb next (count + 1) digits else (value, count)

/-- `n · 10^e` as it comes out of one rounding of `n`, a power of ten and the operation between
them; beyond `10^308` the division is done in steps, of which two already give zero. -/
def floatOfParts (n : Nat) (e : Int) : Option Magnitude := do
  let f ← Magnitude.ofNat n
  let power (k : Nat) : Option Magnitude := Magnitude.ofDecimal 1 k
  if 0 ≤ e then
    if n = 0 then return f
    if 308 < e then none else f.mul (← power e.natAbs)
  else if e.natAbs ≤ 308 then f.div (← power e.natAbs)
  else
    let g ← f.div (← power 308)
    if e.natAbs ≤ 616 then g.div (← power (e.natAbs - 308)) else return .zero

def finishFloat (negative : Bool) (n : Nat) (e : Int) (rest : Bytes) :
    Except Stop (Number × Bytes) :=
  match floatOfParts n e with
  | some m => .ok (.float ⟨negative, m⟩, rest)
  | none => stopped .numberOutOfRange rest

def exponentLimit : Nat := 2147483647

/-- Digits of an exponent. The first digit that leaves 32 bits decides: a large number is out of
range there, anything else is zero. -/
def readExponentDigits (negative : Bool) (n : Nat) (start : Int) (down : Bool) (value : Nat) :
    Bytes → Except Stop (Number × Bytes)
  | [] => finishFloat negative n (if down then start - value else start + value) []
  | b :: rest =>
      if isDigit b then
        let next := value * 10 + digitValue b
        if next ≤ exponentLimit then readExponentDigits negative n start down next rest
        else if n ≠ 0 ∧ !down then stopped .numberOutOfRange rest
        else .ok (.float ⟨negative, .zero⟩, rest.dropWhile isDigit)
      else finishFloat negative n (if down then start - value else start + value) (b :: rest)

def readExponent (negative : Bool) (n : Nat) (start : Int) (rest : Bytes) :
    Except Stop (Number × Bytes) :=
  let (down, rest) :=
    match rest with
    | b :: tail => if b = 0x2b then (false, tail) else if b = 0x2d then (true, tail) else (false, rest)
    | [] => (false, rest)
  match rest with
  | [] => stopped .endOfValue []
  | b :: tail =>
      if isDigit b then readExponentDigits negative n start down (digitValue b) tail
      else stopped .invalidNumber tail

def isExponentLetter (b : UInt8) : Bool := b == 0x65 || b == 0x45

def readTail (negative : Bool) (n : Nat) (e : Int) (rest : Bytes) : Except Stop (Number × Bytes) :=
  match rest with
  | b :: tail =>
      if isExponentLetter b then readExponent negative n e tail else finishFloat negative n e rest
  | [] => finishFloat negative n e rest

def readFraction (negative : Bool) (n : Nat) (e : Int) (rest : Bytes) :
    Except Stop (Number × Bytes) :=
  let digits := rest.takeWhile isDigit
  let after := rest.dropWhile isDigit
  if digits.isEmpty then
    if rest.isEmpty then stoppedAhead .endOfValue rest else stoppedAhead .invalidNumber rest
  else
    let (value, count) := absorb n 0 digits
    readTail negative value (e - count) after

/-- A number without point or exponent. Zero with a sign is not an integer. -/
def integer (negative : Bool) (n : Nat) (rest : Bytes) : Except Stop (Number × Bytes) :=
  if !negative then .ok (.unsigned n, rest)
  else if n = 0 ∨ int64Limit < n then finishFloat true n 0 rest
  else .ok (.negative n, rest)

/-- A number after its sign. The first digit may be zero only if it is the only one. -/
def readNumber (negative : Bool) (rest : Bytes) : Except Stop (Number × Bytes) :=
  match rest with
  | [] => stopped .endOfValue []
  | b :: tail =>
      if !isDigit b then stopped .invalidNumber tail
      else if b = 0x30 ∧ (tail.head?.any isDigit) then stoppedAhead .invalidNumber tail
      else
        let digits := rest.takeWhile isDigit
        let after := rest.dropWhile isDigit
        let (value, count) := absorb 0 0 digits
        let surplus := digits.length - count
        match after with
        | c :: more =>
            if c = 0x2e then readFraction negative value surplus more
            else if isExponentLetter c then readExponent negative value surplus more
            else if surplus = 0 then integer negative value after
            else finishFloat negative value surplus after
        | [] =>
            if surplus = 0 then integer negative value after
            else finishFloat negative value surplus after

def skipExponent (rest : Bytes) : Except Stop Bytes :=
  let rest :=
    match rest with
    | b :: tail => if b = 0x2b ∨ b = 0x2d then tail else rest
    | [] => rest
  match rest with
  | [] => stopped .invalidNumber []
  | b :: tail =>
      if isDigit b then .ok (tail.dropWhile isDigit) else stopped .invalidNumber tail

def skipTail (rest : Bytes) : Except Stop Bytes :=
  match rest with
  | b :: tail => if isExponentLetter b then skipExponent tail else .ok rest
  | [] => .ok rest

def skipNumber (rest : Bytes) : Except Stop Bytes :=
  match rest with
  | [] => stopped .invalidNumber []
  | b :: tail =>
      if !isDigit b then stopped .invalidNumber tail
      else if b = 0x30 ∧ (tail.head?.any isDigit) then stoppedAhead .invalidNumber tail
      else
        match rest.dropWhile isDigit with
        | c :: more =>
            if c = 0x2e then
              if more.head?.any isDigit then skipTail (more.dropWhile isDigit)
              else stoppedAhead .invalidNumber more
            else skipTail (c :: more)
        | [] => .ok []

/-! ## Strings -/

def escapedByte (b : UInt8) : Option UInt8 :=
  if b = 0x22 ∨ b = 0x5c ∨ b = 0x2f then some b
  else if b = 0x62 then some 0x08
  else if b = 0x66 then some 0x0c
  else if b = 0x6e then some 0x0a
  else if b = 0x72 then some 0x0d
  else if b = 0x74 then some 0x09
  else none

def isLowSurrogate (n : Nat) : Bool := 0xdc00 ≤ n && n ≤ 0xdfff
def isHighSurrogate (n : Nat) : Bool := 0xd800 ≤ n && n ≤ 0xdbff

def codePointBytes (n : Nat) : Bytes := String.utf8EncodeChar (Char.ofNat n)

/-- The bytes of a string and the rest after its closing quote. The bytes before it, reversed, are
in `acc`. -/
def readStringBytes (acc : Bytes) : Bytes → Except Stop (Bytes × Bytes)
  | [] => stopped .endOfString []
  | b :: rest =>
      if b = 0x22 then .ok (acc.reverse, rest)
      else if b = 0x5c then
        match rest with
        | [] => stopped .endOfString []
        | e :: rest =>
            if e = 0x75 then
              match rest with
              | h0 :: h1 :: h2 :: h3 :: rest =>
                  match hexNumber h0 h1 h2 h3 with
                  | none => stopped .invalidEscape rest
                  | some n =>
                      if isLowSurrogate n then stopped .loneSurrogate rest
                      else if isHighSurrogate n then
                        match rest with
                        | [] => stopped .endOfString []
                        | backslash :: rest =>
                            if backslash ≠ 0x5c then stopped .unexpectedEndOfEscape rest
                            else
                              match rest with
                              | [] => stopped .endOfString []
                              | u :: rest =>
                                  if u ≠ 0x75 then stopped .unexpectedEndOfEscape rest
                                  else
                                    match rest with
                                    | l0 :: l1 :: l2 :: l3 :: rest =>
                                        match hexNumber l0 l1 l2 l3 with
                                        | none => stopped .invalidEscape rest
                                        | some m =>
                                            if isLowSurrogate m then
                                              let c := 0x10000 + (n - 0xd800) * 0x400 + (m - 0xdc00)
                                              readStringBytes ((codePointBytes c).reverse ++ acc) rest
                                            else stopped .loneSurrogate rest
                                    | _ => stopped .endOfString []
                      else readStringBytes ((codePointBytes n).reverse ++ acc) rest
              | _ => stopped .endOfString []
            else
              match escapedByte e with
              | some c => readStringBytes (c :: acc) rest
              | none => stopped .invalidEscape rest
      else if b < 0x20 then stopped .controlCharacter rest
      else readStringBytes (b :: acc) rest

/-- A string after its opening quote. If its bytes are not UTF-8, the first byte that is not is at
fault. -/
def readString (rest : Bytes) : Except Stop (String × Bytes) :=
  match readStringBytes [] rest with
  | .error stop => .error stop
  | .ok (bytes, after) =>
      match Utf8.decode bytes with
      | some s => .ok (s, after)
      | none => stopped .invalidCodePoint (Utf8.illFormed 0 rest).tail

/-- Passes over a string after its opening quote. Only the form of escapes matters. -/
def skipString : Bytes → Except Stop Bytes
  | [] => stopped .endOfString []
  | b :: rest =>
      if b = 0x22 then .ok rest
      else if b = 0x5c then
        match rest with
        | [] => stopped .endOfString []
        | e :: rest =>
            if e = 0x75 then
              match rest with
              | h0 :: h1 :: h2 :: h3 :: rest =>
                  match hexNumber h0 h1 h2 h3 with
                  | none => stopped .invalidEscape rest
                  | some _ => skipString rest
              | _ => stopped .endOfString []
            else
              match escapedByte e with
              | some _ => skipString rest
              | none => stopped .invalidEscape rest
      else if b < 0x20 then stopped .controlCharacter (b :: rest)
      else skipString rest

end BuilderRelay.Json
