import BuilderRelay.Bls.Scheme
import BuilderRelay.Hex
import BuilderRelay.Signing.Roots
import BuilderRelay.Text.Whitespace

/-!
# Keys and signatures of the relay

A secret key is written as prefixed hexadecimal, 32 bytes that denote a nonzero scalar below the
group order. Whether the text can be decoded and whether the bytes are a key are separate
questions with separate answers. Signatures are over signing roots only.
-/

namespace BuilderRelay.Signing

open Bls (SecretKey PublicKey Signature Scheme)

def secretKeyLength : Nat := 32

inductive KeyFault where
  | length (n : Nat)
  | badScalar
  deriving DecidableEq, Repr

def KeyFault.message : KeyFault → String
  | .length n => s!"secret key must be {secretKeyLength} bytes, got {n}"
  | .badScalar => "invalid BLS secret key: BLST_BAD_ENCODING"

/-- The bytes of a key text; only the encoding is checked. -/
def decodeKeyText (text : String) : Except Hex.Fault Bytes := Hex.decodePrefixed (Text.trim text)

def secretKeyOfBytes (bytes : Bytes) : Except KeyFault SecretKey :=
  if bytes.length = secretKeyLength then
    let n := Bytes.toNat bytes
    if h : 0 < n ∧ n < Bls.groupOrder then .ok ⟨n, h.1, h.2⟩ else .error .badScalar
  else .error (.length bytes.length)

def faultName : Bls.EncodingFault → String
  | .badEncoding => "BLST_BAD_ENCODING"
  | .notOnCurve => "BLST_POINT_NOT_ON_CURVE"
  | .notInGroup => "BLST_POINT_NOT_IN_GROUP"

def rejectionMessage : Bls.Rejection → String
  | .publicKey fault => "invalid public key: " ++ faultName fault
  | .signature fault => "invalid signature: " ++ faultName fault
  | .mismatch => "signature verification failed: BLST_VERIFY_FAIL"

def sign (bls : Scheme) (key : SecretKey) (objectRoot domain : Root) : Signature :=
  bls.sign key (signingRoot objectRoot domain).toList

def verify (bls : Scheme) (key : PublicKey) (signature : Signature) (objectRoot domain : Root) :
    Except Bls.Rejection Unit :=
  bls.verify key signature (signingRoot objectRoot domain).toList

/-- A registration is signed over its own root by the key it is for. -/
def verifyRegistration (bls : Scheme) (domain : Root) (r : Registration) :
    Except Bls.Rejection Unit :=
  verify bls r.message.publicKey r.signature (registrationRoot r.message) domain

def signRegistration (bls : Scheme) (key : SecretKey) (domain : Root)
    (feeRecipient : ByteVector 20) (gasLimit timestamp : UInt64) : Registration :=
  let message := { feeRecipient, gasLimit, timestamp, publicKey := bls.publicKey key }
  { message, signature := sign bls key (registrationRoot message) domain }

/-- How a signer shows itself; the secret stays out of it. -/
def signerText (bls : Scheme) (key : SecretKey) : String :=
  "RelaySigner \x7b public_key: " ++ Hex.encodePrefixed (bls.publicKey key).toList ++ ", .. \x7d"

end BuilderRelay.Signing
