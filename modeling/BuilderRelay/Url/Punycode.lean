/-!
# Punycode

Labels with characters beyond ASCII as ASCII digits: each digit run is an insertion, counted on from
the one before it.
-/

namespace BuilderRelay.Punycode

def base : Nat := 36

def digitValue (c : Char) : Option Nat :=
  if 'a' ≤ c ∧ c ≤ 'z' then some (c.toNat - 'a'.toNat)
  else if '0' ≤ c ∧ c ≤ '9' then some (c.toNat - '0'.toNat + 26)
  else none

def adaptLoop : (fuel : Nat) → (delta k : Nat) → Nat
  | 0, _, k => k
  | fuel + 1, delta, k =>
      if 455 < delta then adaptLoop fuel (delta / 35) (k + base) else k + 36 * delta / (delta + 38)

def adapt (delta count : Nat) (first : Bool) : Nat :=
  let delta := if first then delta / 700 else delta / 2
  adaptLoop 32 (delta + delta / count) 0

def threshold (k bias : Nat) : Nat :=
  if k ≤ bias + 1 then 1 else if bias + 26 ≤ k then 26 else k - bias

/-- Reads one number of variable length: its value and what is left. -/
def readNumber (bias : Nat) : List Char → (k weight value : Nat) → Option (Nat × List Char)
  | [], _, _, _ => none
  | c :: rest, k, weight, value => do
      let digit ← digitValue c
      let value := value + digit * weight
      let t := threshold k bias
      if 4294967296 ≤ value then none
      else if digit < t then some (value, rest)
      else readNumber bias rest (k + base) (weight * (base - t)) value

/-- Makes the insertions that are left: code points never decrease, and `i` is the place of the next
insertion. -/
def insertAll : (fuel : Nat) → List Char → (output : List Nat) → (n i bias : Nat) →
    Option (List Nat)
  | _, [], output, _, _, _ => some output
  | 0, _, _, _, _, _ => none
  | fuel + 1, digits, output, n, i, bias => do
      let (delta, rest) ← readNumber bias digits base 1 0
      let size := output.length + 1
      let n := n + (i + delta) / size
      let place := (i + delta) % size
      if 0x10ffff < n ∨ (0xd800 ≤ n ∧ n ≤ 0xdfff) then none
      else
        insertAll fuel rest (output.take place ++ n :: output.drop place) n (place + 1)
          (adapt delta size (i = 0))

/-- The label that a text encodes, without its mark. What stands before the last hyphen is taken as
it is. -/
def decode (text : List Char) : Option (List Char) :=
  let tail := (text.reverse.takeWhile (· ≠ '-')).reverse
  let plain := text.take (text.length - tail.length - 1)
  (insertAll tail.length tail (plain.map Char.toNat) 0x80 0 72).map (·.map Char.ofNat)

end BuilderRelay.Punycode
