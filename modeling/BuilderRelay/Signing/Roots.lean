import BuilderRelay.Bls.Encoding
import BuilderRelay.Network
import BuilderRelay.Sha256

/-!
# Roots and domains

The 32-byte roots of the containers that are signed, and the domains that bind a signature to a
network. A container of two fields is one hash of its two chunks; one of four fields is a tree of
two levels, in which the public key is a subtree of its own because it takes two chunks.
-/

namespace BuilderRelay

abbrev Root := ByteVector 32

structure RegistrationMessage where
  feeRecipient : ByteVector 20
  gasLimit : UInt64
  timestamp : UInt64
  publicKey : Bls.PublicKey
  deriving DecidableEq

structure Registration where
  message : RegistrationMessage
  signature : Bls.Signature
  deriving DecidableEq

namespace Signing

/-- The first 32 bytes, followed by zeros if there are fewer. -/
def chunk (bytes : Bytes) : Root := Vector.ofFn fun i => bytes.getD i.val 0

def hashPair (left right : Root) : Root := sha256 (left.toList ++ right.toList)

def uint64Chunk (n : UInt64) : Root := chunk (ByteVector.littleEndian 8 n.toNat).toList

def publicKeyRoot (key : Bls.PublicKey) : Root :=
  hashPair (chunk key.toList) (chunk (key.toList.drop 32))

def registrationRoot (m : RegistrationMessage) : Root :=
  hashPair (hashPair (chunk m.feeRecipient.toList) (uint64Chunk m.gasLimit))
    (hashPair (uint64Chunk m.timestamp) (publicKeyRoot m.publicKey))

def forkDataRoot (version : ByteVector 4) (genesisValidatorsRoot : Root) : Root :=
  hashPair (chunk version.toList) genesisValidatorsRoot

def signingRoot (objectRoot domain : Root) : Root := hashPair objectRoot domain

/-- The domain type followed by the first 28 bytes of the fork data root. -/
def computeDomain (domainType : ByteVector 4) (version : ForkVersion) (root : Root) : Root :=
  chunk (domainType.toList ++ (forkDataRoot version.bytes root).toList.take 28)

def builderDomainType : ByteVector 4 := #v[0x00, 0x00, 0x00, 0x01]

/-- Builder messages are signed over a zero genesis validators root. -/
def builderDomain (version : ForkVersion) : Root :=
  computeDomain builderDomainType version (ByteVector.zero 32)

end Signing

end BuilderRelay
