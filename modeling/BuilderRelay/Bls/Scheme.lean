import BuilderRelay.Bls.Encoding
import BuilderRelay.Bls.HashToCurve
import BuilderRelay.Bls.Pairing

/-!
# Signatures

A signature scheme is what the relay needs of BLS: public keys of secret scalars, signatures, and a
verification that says what is wrong. The relay's theory is stated for any scheme; `Bls.scheme` is
the one with public keys in the small group.
-/

namespace BuilderRelay.Bls

structure SecretKey where
  scalar : Nat
  pos : 0 < scalar
  lt : scalar < groupOrder

inductive Rejection where
  | publicKey (fault : EncodingFault)
  | signature (fault : EncodingFault)
  | mismatch
  deriving DecidableEq, Repr

structure Scheme where
  publicKey : SecretKey → PublicKey
  sign : SecretKey → Bytes → Signature
  verify : PublicKey → Signature → Bytes → Except Rejection Unit

def signatureTag : String := "BLS_SIG_BLS12381G2_XMD:SHA-256_SSWU_RO_POP_"

def messagePoint (message : Bytes) : Point Fp2 := hashToCurve signatureTag.toUTF8.toList message

namespace SecretKey

def publicKey (key : SecretKey) : PublicKey := .encode (generator.scale key.scalar)

def sign (key : SecretKey) (message : Bytes) : Signature :=
  .encode ((messagePoint message).scale key.scalar)

end SecretKey

/-- Neither point may lie outside its group, and the key may not be the point at infinity. -/
def pairingHolds (key : Point Fp) (signature : Point Fp2) (message : Bytes) : Bool :=
  key ≠ .infinity && signature.inSubgroup && key.inSubgroup &&
    pairingProductIsOne [(key, messagePoint message), (generator.neg, signature)]

def verify (key : PublicKey) (signature : Signature) (message : Bytes) : Except Rejection Unit := do
  let keyPoint ← key.decode.mapError .publicKey
  let signaturePoint ← signature.decode.mapError .signature
  if pairingHolds keyPoint signaturePoint message then .ok () else .error .mismatch

def scheme : Scheme where
  publicKey := SecretKey.publicKey
  sign := SecretKey.sign
  verify := verify

end BuilderRelay.Bls
