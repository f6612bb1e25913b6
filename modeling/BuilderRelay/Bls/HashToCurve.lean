import BuilderRelay.Bls.Curve
import BuilderRelay.Sha256

/-!
# Hashing to the twist

A random oracle onto the signature group: expand the message with SHA-256, read two
elements of `Fp2`, map each to a curve isogenous to the twist by the simplified SWU map, carry both
over with the isogeny, add them, and clear the cofactor.
-/

namespace BuilderRelay.Bls.HashToCurve

def lengthPrefix (n : Nat) : Bytes := (ByteVector.bigEndian 2 n).toList

def exclusiveOr (a b : ByteVector 32) : ByteVector 32 :=
  Vector.ofFn fun i => a[i] ^^^ b[i]

/-- The blocks after the first: each hashes the first block mixed with its predecessor. -/
def expandBlocks (suffix : Bytes) (b0 : ByteVector 32) : (count : Nat) → (index : Nat) →
    (previous : ByteVector 32) → Bytes
  | 0, _, _ => []
  | count + 1, index, previous =>
      let block := sha256 ((exclusiveOr b0 previous).toList ++ UInt8.ofNat index :: suffix)
      block.toList ++ expandBlocks suffix b0 count (index + 1) block

def expandMessage (tag message : Bytes) (count : Nat) : Bytes :=
  let suffix := tag ++ [UInt8.ofNat tag.length]
  let b0 := sha256 (List.replicate 64 0 ++ message ++ lengthPrefix (32 * count) ++ 0 :: suffix)
  expandBlocks suffix b0 count 1 (ByteVector.zero 32)

/-- Two elements of `Fp2`, each coordinate from 64 bytes so that the reduction is unbiased. -/
def hashToField (tag message : Bytes) : Fp2 × Fp2 :=
  let uniform := expandMessage tag message 8
  let coordinate (i : Nat) : Fp := Fp.ofBytes ((uniform.drop (64 * i)).take 64)
  (⟨coordinate 0, coordinate 1⟩, ⟨coordinate 2, coordinate 3⟩)

/-- The coefficients of the isogenous curve `y² = x³ + a x + b`, and the map's parameter. -/
def isogenousA : Fp2 := ⟨0, 240⟩
def isogenousB : Fp2 := ⟨1012, 1012⟩
def swuZ : Fp2 := ⟨-2, -1⟩

/-- A point of the isogenous curve for each field element: of the two candidate abscissas at least
one has a right-hand side that is a square, and `y` takes the parity of the input. -/
def simplifiedSwu (u : Fp2) : Fp2 × Fp2 :=
  let t := swuZ * (u * u)
  let denominator := t * t + t
  let x1 :=
    if denominator = 0 then isogenousB * Fp2.inverse (swuZ * isogenousA)
    else -isogenousB * Fp2.inverse isogenousA * (1 + Fp2.inverse denominator)
  let rhs (x : Fp2) : Fp2 := x * x * x + isogenousA * x + isogenousB
  let signed (y : Fp2) : Fp2 := if Fp2.isOdd u = Fp2.isOdd y then y else -y
  match Fp2.sqrt (rhs x1) with
  | some y => (x1, signed y)
  | none =>
      let x2 := t * x1
      (x2, signed ((Fp2.sqrt (rhs x2)).getD 0))

def polynomial (coefficients : List Fp2) (x : Fp2) : Fp2 :=
  coefficients.foldr (fun c value => value * x + c) 0

def xNumerator : List Fp2 := [
  ⟨0x5c759507e8e333ebb5b7a9a47d7ed8532c52d39fd3a042a88b58423c50ae15d5c2638e343d9c71c6238aaaaaaaa97d6,
    0x5c759507e8e333ebb5b7a9a47d7ed8532c52d39fd3a042a88b58423c50ae15d5c2638e343d9c71c6238aaaaaaaa97d6⟩,
  ⟨0,
    0x11560bf17baa99bc32126fced787c88f984f87adf7ae0c7f9a208c6b4f20a4181472aaa9cb8d555526a9ffffffffc71a⟩,
  ⟨0x11560bf17baa99bc32126fced787c88f984f87adf7ae0c7f9a208c6b4f20a4181472aaa9cb8d555526a9ffffffffc71e,
    0x8ab05f8bdd54cde190937e76bc3e447cc27c3d6fbd7063fcd104635a790520c0a395554e5c6aaaa9354ffffffffe38d⟩,
  ⟨0x171d6541fa38ccfaed6dea691f5fb614cb14b4e7f4e810aa22d6108f142b85757098e38d0f671c7188e2aaaaaaaa5ed1,
    0⟩]

def xDenominator : List Fp2 := [⟨0, -72⟩, ⟨12, -12⟩, 1]

def yNumerator : List Fp2 := [
  ⟨0x1530477c7ab4113b59a4c18b076d11930f7da5d4a07f649bf54439d87d27e500fc8c25ebf8c92f6812cfc71c71c6d706,
    0x1530477c7ab4113b59a4c18b076d11930f7da5d4a07f649bf54439d87d27e500fc8c25ebf8c92f6812cfc71c71c6d706⟩,
  ⟨0,
    0x5c759507e8e333ebb5b7a9a47d7ed8532c52d39fd3a042a88b58423c50ae15d5c2638e343d9c71c6238aaaaaaaa97be⟩,
  ⟨0x11560bf17baa99bc32126fced787c88f984f87adf7ae0c7f9a208c6b4f20a4181472aaa9cb8d555526a9ffffffffc71c,
    0x8ab05f8bdd54cde190937e76bc3e447cc27c3d6fbd7063fcd104635a790520c0a395554e5c6aaaa9354ffffffffe38f⟩,
  ⟨0x124c9ad43b6cf79bfbf7043de3811ad0761b0f37a1e26286b0e977c69aa274524e79097a56dc4bd9e1b371c71c718b10,
    0⟩]

def yDenominator : List Fp2 := [⟨-432, -432⟩, ⟨0, -216⟩, ⟨18, -18⟩, 1]

def isogeny (x y : Fp2) : Point Fp2 :=
  let dx := polynomial xDenominator x
  let dy := polynomial yDenominator x
  if dx = 0 ∨ dy = 0 then .infinity
  else
    .affine (polynomial xNumerator x * Fp2.inverse dx)
      (y * (polynomial yNumerator x * Fp2.inverse dy))

/-- A multiple of the cofactor that carries every point of the twist into the subgroup. -/
def effectiveCofactor : Nat :=
  0xbc69f08f2ee75b3584c6a0ea91b352888e2a8e9145ad7689986ff031508ffe1329c2f178731db956d82bf015d1212b02ec0ec69d7477c1ae954cbc06689f6a359894c0adebbf6b4e8020005aaa95551

def mapToCurve (u : Fp2) : Point Fp2 :=
  let (x, y) := simplifiedSwu u
  isogeny x y

end HashToCurve

def hashToCurve (tag message : Bytes) : Point Fp2 :=
  let (u0, u1) := HashToCurve.hashToField tag message
  ((HashToCurve.mapToCurve u0).add (HashToCurve.mapToCurve u1)).scale HashToCurve.effectiveCofactor

end BuilderRelay.Bls
