/-!
# Double-precision numbers

Floating-point values as exact integers `mantissa · 2^exponent`, rounded to 53 bits with ties to
even, and the shortest decimal digits that determine a value. Infinities and NaN are not values
here: an operation that overflows has no result.
-/

namespace BuilderRelay

/-- A nonnegative value; the mantissa is below `2^53` and the exponent at least `-1074`. -/
structure Magnitude where
  mantissa : Nat
  exponent : Int
  deriving DecidableEq, Repr

namespace Magnitude

def zero : Magnitude := ⟨0, -1074⟩

/-- The smallest mantissa that needs all 53 bits. -/
def hiddenBit : Nat := 4503599627370496

def scaled (n : Nat) (e : Int) : Nat × Nat :=
  if e < 0 then (n, Nat.pow 2 e.natAbs) else (n * Nat.pow 2 e.natAbs, 1)

/-- The quotient rounded to an integer, ties to even. -/
def divideRounded (num den : Nat) : Nat :=
  let q := num / den
  let r := num % den
  if 2 * r < den then q else if 2 * r = den then q + q % 2 else q + 1

def ofRatio (num den : Nat) : Option Magnitude :=
  if num = 0 then some zero
  else
    let estimate : Int := num.log2 - den.log2 - 53
    let (n0, d0) := scaled num (-estimate)
    let fitted := if n0 / (den * d0) < hiddenBit * 2 then estimate else estimate + 1
    let e := max fitted (-1074)
    let (n, d) := scaled num (-e)
    let m := divideRounded n (den * d)
    let (m, e) := if m = hiddenBit * 2 then (hiddenBit, e + 1) else (m, e)
    if 971 < e then none else some ⟨m, e⟩

def ratio (x : Magnitude) : Nat × Nat := scaled x.mantissa x.exponent

def ofNat (n : Nat) : Option Magnitude := ofRatio n 1

def mul (x y : Magnitude) : Option Magnitude :=
  ofRatio (x.ratio.1 * y.ratio.1) (x.ratio.2 * y.ratio.2)

def div (x y : Magnitude) : Option Magnitude :=
  ofRatio (x.ratio.1 * y.ratio.2) (x.ratio.2 * y.ratio.1)

def decimalRatio (digits : Nat) (e : Int) : Nat × Nat :=
  if e < 0 then (digits, Nat.pow 10 e.natAbs) else (digits * Nat.pow 10 e.natAbs, 1)

def ofDecimal (digits : Nat) (e : Int) : Option Magnitude :=
  ofRatio (decimalRatio digits e).1 (decimalRatio digits e).2

/-- The largest `k` with `10^k ≤ num / den`, searched downwards from an upper bound. -/
def decimalExponent (num den : Nat) : (fuel : Nat) → Int → Int
  | 0, k => k
  | fuel + 1, k =>
      let (n, d) := decimalRatio 1 k
      if n * den ≤ num * d then k else decimalExponent num den fuel (k - 1)

/-- The integers on either side of `x / 10^k`, the nearer one first. -/
def neighbours (x : Magnitude) (k : Int) : List Nat :=
  let (n, d) := x.ratio
  let (p, q) := decimalRatio 1 k
  let low := n * q / (d * p)
  let excess := n * q % (d * p)
  if 2 * excess < d * p ∨ (2 * excess = d * p ∧ low % 2 = 0) then [low, low + 1] else [low + 1, low]

def shortestFrom (x : Magnitude) : (fuel : Nat) → Int → Nat × Int
  | 0, k => ((neighbours x k).headD 0, k)
  | fuel + 1, k =>
      match (neighbours x k).find? fun digits => ofDecimal digits k = some x with
      | some digits => (digits, k)
      | none => shortestFrom x fuel (k - 1)

/-- The shortest `digits` and their place `k` such that `digits · 10^k` determines the value. -/
def shortest (x : Magnitude) : Nat × Int :=
  if x.mantissa = 0 then (0, 0)
  else
    let (n, d) := x.ratio
    shortestFrom x 17 (decimalExponent n d 700 310)

end Magnitude

structure Binary64 where
  negative : Bool
  magnitude : Magnitude
  deriving DecidableEq, Repr

namespace Binary64

def sign (x : Binary64) : String := if x.negative then "-" else ""

def trimZeros : (fuel : Nat) → Nat × Int → Nat × Int
  | 0, d => d
  | fuel + 1, (digits, k) =>
      if digits ≠ 0 ∧ digits % 10 = 0 then trimZeros fuel (digits / 10, k + 1) else (digits, k)

def zeros (n : Nat) : String := .ofList (List.replicate n '0')

def fixedText (digits : String) (k : Int) : String :=
  if 0 ≤ k then digits ++ zeros k.toNat
  else
    let places := k.natAbs
    let padded := zeros (places + 1 - digits.length) ++ digits
    .ofList (padded.toList.take (padded.length - places)) ++ "." ++
      .ofList (padded.toList.drop (padded.length - places))

def plainText (x : Binary64) : String :=
  let (digits, k) := trimZeros 400 x.magnitude.shortest
  x.sign ++ fixedText (toString digits) k

/-- The shortest form, always with a fraction or an exponent: an exponent is written when the first
digit stands further than fifteen places before or five places behind the units. -/
def text (x : Binary64) : String :=
  let (value, k) := trimZeros 400 x.magnitude.shortest
  let digits := toString value
  let first : Int := k + digits.length - 1
  if -5 ≤ first ∧ first ≤ 15 then
    x.sign ++ fixedText digits k ++ if 0 ≤ k then ".0" else ""
  else
    let fraction := if digits.length = 1 then "" else "." ++ .ofList (digits.toList.drop 1)
    let e := toString first.natAbs
    x.sign ++ .ofList (digits.toList.take 1) ++ fraction ++ "e" ++ (if first < 0 then "-" else "+") ++
      zeros (2 - e.length) ++ e

end Binary64

end BuilderRelay
