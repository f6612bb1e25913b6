import BuilderRelay.Data.Bytes

/-!
# The fields of BLS12-381

`Fp` is the base field, `Fp2 = Fp[u]/(u² + 1)` its quadratic extension. Inverses and square roots
are powers, so they are total: the inverse of zero is zero, and a square root is checked by
squaring it.
-/

namespace BuilderRelay.Bls

def fieldOrder : Nat :=
  0x1a0111ea397fe69a4b1ba7b6434bacd764774b84f38512bf6730d2a0f6b0f6241eabfffeb153ffffb9feffffffffaaab

def groupOrder : Nat :=
  0x73eda753299d7d483339d80809a1d80553bda402fffe5bfeffffffff00000001

/-- The absolute value of the curve parameter, which is negative. -/
def curveParameter : Nat := 0xd201000000010000

/-- The zero of the numbers is named, as more than one instance can provide it. -/
instance : @NeZero Nat Zero.ofOfNat0 fieldOrder :=
  @NeZero.mk Nat Zero.ofOfNat0 fieldOrder (Nat.succ_ne_zero _)

abbrev Fp := Fin fieldOrder

instance : Zero Fp := ⟨Fin.ofNat fieldOrder 0⟩
instance : One Fp := ⟨Fin.ofNat fieldOrder 1⟩

def binaryDigits (n : Nat) : List Bool :=
  (List.range (n.log2 + 1)).reverse.map n.testBit

def power {K : Type} [Mul K] [One K] (x : K) (n : Nat) : K :=
  (binaryDigits n).foldl (fun y bit => if bit then y * y * x else y * y) 1

namespace Fp

def inverse (a : Fp) : Fp := power a (fieldOrder - 2)

def sqrt (a : Fp) : Option Fp :=
  let root := power a ((fieldOrder + 1) / 4)
  if root * root = a then some root else none

def isLarge (a : Fp) : Bool := 2 * a.val > fieldOrder

def ofBytes (bytes : Bytes) : Fp := Fin.ofNat fieldOrder bytes.toNat

end Fp

/-- `c0 + c1 u` with `u² = -1`. -/
structure Fp2 where
  c0 : Fp
  c1 : Fp
  deriving DecidableEq

namespace Fp2

instance : Zero Fp2 := ⟨⟨0, 0⟩⟩
instance : One Fp2 := ⟨⟨1, 0⟩⟩
instance : Add Fp2 := ⟨fun a b => ⟨a.c0 + b.c0, a.c1 + b.c1⟩⟩
instance : Sub Fp2 := ⟨fun a b => ⟨a.c0 - b.c0, a.c1 - b.c1⟩⟩
instance : Neg Fp2 := ⟨fun a => ⟨-a.c0, -a.c1⟩⟩
instance : Mul Fp2 := ⟨fun a b => ⟨a.c0 * b.c0 - a.c1 * b.c1, a.c0 * b.c1 + a.c1 * b.c0⟩⟩

def ofFp (a : Fp) : Fp2 := ⟨a, 0⟩

def scale (k : Fp) (a : Fp2) : Fp2 := ⟨k * a.c0, k * a.c1⟩

/-- The nontrivial automorphism, which is also the `p`-power map. -/
def conjugate (a : Fp2) : Fp2 := ⟨a.c0, -a.c1⟩

def norm (a : Fp2) : Fp := a.c0 * a.c0 + a.c1 * a.c1

def inverse (a : Fp2) : Fp2 := scale (Fp.inverse a.norm) a.conjugate

/-- The element `1 + u`, neither a square nor a cube. -/
def nonresidue : Fp2 := ⟨1, 1⟩

def mulNonresidue (a : Fp2) : Fp2 := ⟨a.c0 - a.c1, a.c0 + a.c1⟩

def checkRoot (a root : Fp2) : Option Fp2 := if root * root = a then some root else none

/-- A square root by way of a root of the norm. -/
def sqrt (a : Fp2) : Option Fp2 :=
  if a.c1 = 0 then
    match Fp.sqrt a.c0 with
    | some root => some ⟨root, 0⟩
    | none => (Fp.sqrt (-a.c0)).bind fun root => checkRoot a ⟨0, root⟩
  else
    (Fp.sqrt a.norm).bind fun n =>
      let half := Fp.inverse 2
      ((Fp.sqrt ((a.c0 + n) * half)).or (Fp.sqrt ((a.c0 - n) * half))).bind fun c0 =>
        checkRoot a ⟨c0, a.c1 * Fp.inverse (2 * c0)⟩

/-- The parity of the first nonzero coordinate, as hashing to the curve defines the sign. -/
def isOdd (a : Fp2) : Bool :=
  if a.c0 = 0 then a.c1.val % 2 = 1 else a.c0.val % 2 = 1

/-- The order of compressed encodings, which looks at the `u` coordinate first. -/
def isLarge (a : Fp2) : Bool :=
  if a.c1 = 0 then Fp.isLarge a.c0 else Fp.isLarge a.c1

end Fp2

end BuilderRelay.Bls
