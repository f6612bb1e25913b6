import BuilderRelay.Bls.Curve

/-!
# The pairing

`Fp12` is `Fp2[w]/(w⁶ - (1 + u))`, written by its six coefficients. The Miller loop runs over the
binary digits of the curve parameter on affine points of the twist; its lines are scaled by `w³`,
which lies in a proper subfield and is lost in the final exponentiation.
-/

namespace BuilderRelay.Bls

structure Fp12 where
  c0 : Fp2
  c1 : Fp2
  c2 : Fp2
  c3 : Fp2
  c4 : Fp2
  c5 : Fp2
  deriving DecidableEq

namespace Fp12

instance : One Fp12 := ⟨⟨1, 0, 0, 0, 0, 0⟩⟩

/-- Products of coefficients whose degrees sum past five come back times `1 + u`. -/
def mul (a b : Fp12) : Fp12 where
  c0 := a.c0 * b.c0 + Fp2.mulNonresidue
    (a.c1 * b.c5 + a.c2 * b.c4 + a.c3 * b.c3 + a.c4 * b.c2 + a.c5 * b.c1)
  c1 := a.c0 * b.c1 + a.c1 * b.c0 + Fp2.mulNonresidue
    (a.c2 * b.c5 + a.c3 * b.c4 + a.c4 * b.c3 + a.c5 * b.c2)
  c2 := a.c0 * b.c2 + a.c1 * b.c1 + a.c2 * b.c0 + Fp2.mulNonresidue
    (a.c3 * b.c5 + a.c4 * b.c4 + a.c5 * b.c3)
  c3 := a.c0 * b.c3 + a.c1 * b.c2 + a.c2 * b.c1 + a.c3 * b.c0 + Fp2.mulNonresidue
    (a.c4 * b.c5 + a.c5 * b.c4)
  c4 := a.c0 * b.c4 + a.c1 * b.c3 + a.c2 * b.c2 + a.c3 * b.c1 + a.c4 * b.c0 + Fp2.mulNonresidue
    (a.c5 * b.c5)
  c5 := a.c0 * b.c5 + a.c1 * b.c4 + a.c2 * b.c3 + a.c3 * b.c2 + a.c4 * b.c1 + a.c5 * b.c0

instance : Mul Fp12 := ⟨mul⟩

/-- The coefficients `y + v w² + h w³` of a scaled line. -/
def line (y v h : Fp2) : Fp12 := ⟨y, 0, v, h, 0, 0⟩

def mulLine (a : Fp12) (y v h : Fp2) : Fp12 where
  c0 := a.c0 * y + Fp2.mulNonresidue (a.c3 * h + a.c4 * v)
  c1 := a.c1 * y + Fp2.mulNonresidue (a.c4 * h + a.c5 * v)
  c2 := a.c0 * v + a.c2 * y + Fp2.mulNonresidue (a.c5 * h)
  c3 := a.c0 * h + a.c1 * v + a.c3 * y
  c4 := a.c1 * h + a.c2 * v + a.c4 * y
  c5 := a.c2 * h + a.c3 * v + a.c5 * y

def frobeniusFactor : Fp2 := power Fp2.nonresidue ((fieldOrder - 1) / 6)

def frobenius (a : Fp12) : Fp12 :=
  let g1 := frobeniusFactor
  let g2 := g1 * g1
  let g3 := g2 * g1
  { c0 := a.c0.conjugate
    c1 := a.c1.conjugate * g1
    c2 := a.c2.conjugate * g2
    c3 := a.c3.conjugate * g3
    c4 := a.c4.conjugate * (g2 * g2)
    c5 := a.c5.conjugate * (g3 * g2) }

def conjugate (a : Fp12) : Fp12 := ⟨a.c0, -a.c1, a.c2, -a.c3, a.c4, -a.c5⟩

def conjugateProduct (a : Fp12) : Fp12 :=
  ((List.range 11).foldl (fun s _ => let next := frobenius s.1; (next, s.2 * next)) (a, 1)).2

/-- An element times its other conjugates is its norm, which lies in the base field. -/
def inverse (a : Fp12) : Fp12 :=
  let others := conjugateProduct a
  let k := Fp.inverse (a * others).c0.c0
  ⟨.scale k others.c0, .scale k others.c1, .scale k others.c2,
    .scale k others.c3, .scale k others.c4, .scale k others.c5⟩

/-- Raising to the curve parameter, on elements whose inverse is their conjugate. -/
def powerParameter (a : Fp12) : Fp12 := conjugate (power a curveParameter)

/-- The cube of raising to `(p¹² - 1)/r`. With `z` the curve parameter, three times the hard part
of the exponent is `(z - 1)² (z + p) (z² + p² - 1) + 3`. -/
def finalExponentiation (f : Fp12) : Fp12 :=
  let easy := conjugate f * inverse f
  let m := frobenius (frobenius easy) * easy
  let t0 := powerParameter m * conjugate m
  let t1 := powerParameter t0 * conjugate t0
  let t2 := powerParameter t1 * frobenius t1
  let t3 := powerParameter (powerParameter t2) * frobenius (frobenius t2) * conjugate t2
  t3 * (m * m * m)

end Fp12

namespace Miller

structure State where
  x : Fp2
  y : Fp2
  value : Fp12

/-- Multiplies in the line through the running point with the given slope and moves the running
point to the third intersection with `other`, negated. -/
def advance (px py : Fp) (slope otherX : Fp2) (s : State) : State :=
  let x := slope * slope - s.x - otherX
  { x := x
    y := slope * (s.x - x) - s.y
    value := s.value.mulLine (slope * s.x - s.y) (-(Fp2.scale px slope)) (.ofFp py) }

def double (px py : Fp) (s : State) : State :=
  let xx := s.x * s.x
  let slope := (xx + xx + xx) * Fp2.inverse (s.y + s.y)
  advance px py slope s.x { s with value := s.value * s.value }

def addStep (px py : Fp) (qx qy : Fp2) (s : State) : State :=
  advance px py ((qy - s.y) * Fp2.inverse (qx - s.x)) qx s

end Miller

/-- The product of lines for a pair of points; the curve parameter is negative, so the loop's value
is conjugated. Pairs with a point at infinity contribute one. -/
def millerLoop : Point Fp → Point Fp2 → Fp12
  | .affine px py, .affine qx qy =>
      let s := (binaryDigits curveParameter).tail.foldl
        (fun s bit =>
          let s := Miller.double px py s
          if bit then Miller.addStep px py qx qy s else s)
        ⟨qx, qy, 1⟩
      s.value.conjugate
  | _, _ => 1

/-- Whether the product of the pairings of the given pairs is one. -/
def pairingProductIsOne (pairs : List (Point Fp × Point Fp2)) : Bool :=
  Fp12.finalExponentiation (pairs.foldl (fun f pair => f * millerLoop pair.1 pair.2) 1) = 1

end BuilderRelay.Bls
