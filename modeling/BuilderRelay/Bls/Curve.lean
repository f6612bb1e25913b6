import BuilderRelay.Bls.Field

/-!
# Curve points

Points of `y² = x³ + b` over either field, affine at the boundary and Jacobian inside: the triple
`(X, Y, Z)` stands for `(X/Z², Y/Z³)` and `Z = 0` for the point at infinity. Keys live on the curve
with `b = 4` over `Fp`, signatures on its twist with `b = 4(1 + u)` over `Fp2`.
-/

namespace BuilderRelay.Bls

class CurveField (K : Type) extends Zero K, One K, Add K, Sub K, Neg K, Mul K where
  eq : DecidableEq K
  inverse : K → K
  /-- The constant term of the curve equation. -/
  b : K

instance {K : Type} [CurveField K] : DecidableEq K := CurveField.eq

instance : CurveField Fp where
  eq := inferInstance
  inverse := Fp.inverse
  b := 4

instance : CurveField Fp2 where
  eq := inferInstance
  inverse := Fp2.inverse
  b := ⟨4, 4⟩

inductive Point (K : Type) where
  | infinity
  | affine (x y : K)
  deriving DecidableEq

structure Jacobian (K : Type) where
  x : K
  y : K
  z : K

variable {K : Type} [CurveField K]

namespace Jacobian

def infinity : Jacobian K := ⟨1, 1, 0⟩

def ofPoint : Point K → Jacobian K
  | .infinity => infinity
  | .affine x y => ⟨x, y, 1⟩

def toPoint (p : Jacobian K) : Point K :=
  if p.z = 0 then .infinity
  else
    let inv := CurveField.inverse p.z
    let inv2 := inv * inv
    .affine (p.x * inv2) (p.y * (inv2 * inv))

def double (p : Jacobian K) : Jacobian K :=
  let a := p.x * p.x
  let b := p.y * p.y
  let c := b * b
  let s := p.x * b
  let d := (s + s) + (s + s)
  let e := a + a + a
  let x := e * e - (d + d)
  let c4 := (c + c) + (c + c)
  let yz := p.y * p.z
  ⟨x, e * (d - x) - (c4 + c4), yz + yz⟩

def add (p q : Jacobian K) : Jacobian K :=
  if p.z = 0 then q
  else if q.z = 0 then p
  else
    let zp := p.z * p.z
    let zq := q.z * q.z
    let xp := p.x * zq
    let xq := q.x * zp
    let yp := p.y * (zq * q.z)
    let yq := q.y * (zp * p.z)
    if xp = xq then
      if yp = yq then double p else infinity
    else
      let h := xq - xp
      let r := yq - yp
      let h2 := h * h
      let h3 := h2 * h
      let v := xp * h2
      let x := r * r - h3 - (v + v)
      ⟨x, r * (v - x) - yp * h3, p.z * q.z * h⟩

/-- Double-and-add over the binary digits of the scalar. -/
def scale (n : Nat) (p : Jacobian K) : Jacobian K :=
  (binaryDigits n).foldl (fun q bit => if bit then add (double q) p else double q) infinity

end Jacobian

namespace Point

def add (p q : Point K) : Point K :=
  ((Jacobian.ofPoint p).add (Jacobian.ofPoint q)).toPoint

def neg : Point K → Point K
  | .infinity => .infinity
  | .affine x y => .affine x (-y)

/-- `n` times the point. -/
def scale (n : Nat) (p : Point K) : Point K := ((Jacobian.ofPoint p).scale n).toPoint

def rhs (x : K) : K := x * x * x + CurveField.b

/-- Whether the point is annihilated by the group order. -/
def inSubgroup (p : Point K) : Bool := ((Jacobian.ofPoint p).scale groupOrder).z = 0

end Point

def generator : Point Fp := .affine
  0x17f1d3a73197d7942695638c4fa9ac0fc3688c4f9774b905a14e3a3f171bac586c55e83ff97a1aeffb3af00adb22c6bb
  0x08b3f481e3aaa0f1a09e30ed741d8ae4fcf5e095d5d00af600db18cb2c04b3edd03cc744a2888ae40caa232946c5e7e1

end BuilderRelay.Bls
