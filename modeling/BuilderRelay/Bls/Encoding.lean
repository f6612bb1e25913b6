import BuilderRelay.Bls.Curve

/-!
# Compressed points

A compressed point is its big-endian `x` coordinate; for the twist the `u` coordinate comes first.
The top three bits of the first byte are flags: compressed, infinity, and whether `y` is the larger
of the two roots.
-/

namespace BuilderRelay.Bls

abbrev PublicKey := ByteVector 48

abbrev Signature := ByteVector 96

inductive EncodingFault where
  | badEncoding
  | notOnCurve
  | notInGroup
  deriving DecidableEq, Repr

def flagCompressed : UInt8 := 0x80
def flagInfinity : UInt8 := 0x40
def flagLarge : UInt8 := 0x20

/-- The big-endian number below the flags, when it is below the field order. -/
def coordinate (bytes : Bytes) : Option Fp :=
  let n := bytes.toNat
  if h : n < fieldOrder then some ⟨n, h⟩ else none

def clearFlags : Bytes → Bytes
  | [] => []
  | b :: rest => (b &&& 0x1f) :: rest

/-- The flags are looked at first, then `x`, then whether the curve has a point there. -/
def decompress {K : Type} [CurveField K] (readX : Bytes → Option K) (sqrt : K → Option K)
    (isLarge : K → Bool) (bytes : Bytes) : Except EncodingFault (Point K) :=
  let flags := bytes.headD 0
  if flags &&& flagCompressed = 0 then .error .badEncoding
  else if flags &&& flagInfinity ≠ 0 then
    if flags &&& 0x3f = 0 ∧ bytes.tail.all (· == 0) then .ok .infinity else .error .badEncoding
  else
    match readX (clearFlags bytes) with
    | none => .error .badEncoding
    | some x =>
        match sqrt (Point.rhs x) with
        | none => .error .notOnCurve
        | some root =>
            let y := if isLarge root = (flags &&& flagLarge ≠ 0) then root else -root
            .ok (.affine x y)

namespace PublicKey

def encode : Point Fp → PublicKey
  | .infinity => (ByteVector.zero 48).set 0 (flagCompressed ||| flagInfinity)
  | .affine x y =>
      let bytes := ByteVector.bigEndian 48 x.val
      let flags := flagCompressed ||| if Fp.isLarge y then flagLarge else 0
      bytes.set 0 (bytes[0] ||| flags)

/-- A point with `x = 0` is on the curve but has order three, and is refused here already. -/
def decode (key : PublicKey) : Except EncodingFault (Point Fp) := do
  match ← decompress coordinate Fp.sqrt Fp.isLarge key.toList with
  | .affine x y => if x = 0 then .error .notInGroup else .ok (.affine x y)
  | .infinity => .ok .infinity

end PublicKey

namespace Signature

def encode : Point Fp2 → Signature
  | .infinity => (ByteVector.zero 96).set 0 (flagCompressed ||| flagInfinity)
  | .affine x y =>
      let bytes : ByteVector 96 := ByteVector.bigEndian 48 x.c1.val ++ ByteVector.bigEndian 48 x.c0.val
      let flags := flagCompressed ||| if Fp2.isLarge y then flagLarge else 0
      bytes.set 0 (bytes[0] ||| flags)

def readX (bytes : Bytes) : Option Fp2 := do
  let c1 ← coordinate (bytes.take 48)
  let c0 ← coordinate (bytes.drop 48)
  return ⟨c0, c1⟩

def decode (signature : Signature) : Except EncodingFault (Point Fp2) :=
  decompress readX Fp2.sqrt Fp2.isLarge signature.toList

end Signature

end BuilderRelay.Bls
