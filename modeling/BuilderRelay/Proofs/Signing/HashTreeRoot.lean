import BuilderRelay.Proofs.Signing.Chunks
import BuilderRelay.Signing.Keys
import Mathlib.Data.Nat.Log

/-!
# Roots of containers

The hash tree root of a value as the simple serialization of the consensus layer defines it: numbers
and byte vectors are packed into chunks, a container has the roots of its fields for chunks, and
chunks are the leaves of a binary tree, with zero chunks up to the next power of two. The roots and
domains that are computed for registrations, fork data and signing data are those of the containers
they are named after, and what is signed and verified is such a root.
-/

namespace BuilderRelay

/-- A value that has a root. -/
inductive SszValue where
  | uint {bits : Nat} (n : BitVec bits)
  | bytes {n : Nat} (v : ByteVector n)
  | container (fields : List SszValue)

namespace Signing

/-! ## The specification -/

/-- The digits of a number in base 256, the least significant first. -/
def serializeUint (size n : Nat) : Bytes := (List.range size).map fun i => UInt8.ofNat (n / 256 ^ i)

/-- Bytes by chunks; behind the last byte come zeros. -/
def pack (bytes : Bytes) : List Root :=
  (List.range ((bytes.length + 31) / 32)).map fun i =>
    Vector.ofFn fun j => bytes.getD (32 * i + j.val) 0

/-- The root of a tree of the given depth, whose leaves are the chunks. -/
def treeRoot : Nat → List Root → Root
  | 0, chunks => chunks.headD (.zero 32)
  | depth + 1, chunks =>
      sha256 ((treeRoot depth (chunks.take (2 ^ depth))).toList ++
        (treeRoot depth (chunks.drop (2 ^ depth))).toList)

/-- The root over chunks, whose number is made a power of two by zero chunks. -/
def merkleize (chunks : List Root) : Root :=
  let depth := Nat.clog 2 chunks.length
  treeRoot depth (chunks ++ List.replicate (2 ^ depth - chunks.length) (.zero 32))

mutual

def hashTreeRoot : SszValue → Root
  | @SszValue.uint bits n => merkleize (pack (serializeUint (bits / 8) n.toNat))
  | .bytes v => merkleize (pack v.toList)
  | .container fields => merkleize (fieldRoots fields)

def fieldRoots : List SszValue → List Root
  | [] => []
  | field :: fields => hashTreeRoot field :: fieldRoots fields

end

def registrationContainer (m : RegistrationMessage) : SszValue :=
  .container [.bytes m.feeRecipient, .uint m.gasLimit.toBitVec, .uint m.timestamp.toBitVec,
    .bytes m.publicKey]

def forkDataContainer (version : ByteVector 4) (genesisValidatorsRoot : Root) : SszValue :=
  .container [.bytes version, .bytes genesisValidatorsRoot]

def signingDataContainer (objectRoot domain : Root) : SszValue :=
  .container [.bytes objectRoot, .bytes domain]

/-- What is signed for an object under a domain. -/
def computeSigningRoot (objectRoot domain : Root) : Root :=
  hashTreeRoot (signingDataContainer objectRoot domain)

/-! ## Packing -/

theorem pack_nil : pack [] = [] := rfl

/-- Each chunk starts 32 bytes behind the one before it. -/
theorem pack_eq_map (bytes : Bytes) :
    pack bytes = (List.range ((bytes.length + 31) / 32)).map fun i =>
      chunk (bytes.drop (32 * i)) := by
  apply List.map_congr_left
  intro i _
  apply Vector.ext
  intro j hj
  simp only [chunk, Vector.getElem_ofFn, List.getD_eq_getElem?_getD, List.getElem?_drop]

theorem pack_eq_cons {bytes : Bytes} (h : bytes ≠ []) :
    pack bytes = chunk bytes :: pack (bytes.drop 32) := by
  have hpos : 0 < bytes.length := List.length_pos_iff.mpr h
  have hcount : (bytes.length + 31) / 32 = ((bytes.drop 32).length + 31) / 32 + 1 := by
    rw [List.length_drop]
    omega
  rw [pack_eq_map, pack_eq_map, hcount, List.range_succ_eq_map, List.map_cons, List.map_map,
    Nat.mul_zero, List.drop_zero]
  refine congrArg (chunk bytes :: ·) (List.map_congr_left fun i _ => ?_)
  rw [Function.comp_apply, List.drop_drop, Nat.mul_succ, Nat.add_comm]

theorem pack_of_length_le {bytes : Bytes} (h : bytes ≠ []) (hle : bytes.length ≤ 32) :
    pack bytes = [chunk bytes] := by
  rw [pack_eq_cons h, List.drop_eq_nil_of_le hle, pack_nil]

theorem serializeUint_eq (size n : Nat) :
    serializeUint size n = (ByteVector.littleEndian size n).toList := by
  apply List.ext_getElem
  · simp [serializeUint]
  · intro i _ _
    have hdiv : n >>> (8 * i) = n / 256 ^ i := by
      rw [Nat.shiftRight_eq_div_pow, Nat.pow_mul]
    simp [serializeUint, ByteVector.littleEndian, hdiv]

/-! ## Trees -/

/-- Chunks whose number is a power of two need no others. -/
theorem merkleize_of_length_eq {depth : Nat} {chunks : List Root} (h : chunks.length = 2 ^ depth) :
    merkleize chunks = treeRoot depth chunks := by
  rw [merkleize, h, Nat.clog_pow 2 depth (by decide), Nat.sub_self, List.replicate_zero,
    List.append_nil]

theorem merkleize_singleton (c : Root) : merkleize [c] = c :=
  @merkleize_of_length_eq 0 _ rfl

theorem merkleize_pair (c d : Root) : merkleize [c, d] = hashPair c d :=
  @merkleize_of_length_eq 1 _ rfl

theorem merkleize_four (a b c d : Root) :
    merkleize [a, b, c, d] = hashPair (hashPair a b) (hashPair c d) :=
  @merkleize_of_length_eq 2 _ rfl

/-- Three chunks are hashed with a zero chunk for the fourth. -/
example (a b c : Root) :
    merkleize [a, b, c] = hashPair (hashPair a b) (hashPair c (.zero 32)) := by
  have hdepth : Nat.clog 2 3 = 2 := by decide
  simp only [merkleize, List.length_cons, List.length_nil, hdepth]
  rfl

/-! ## Roots of values -/

theorem hashTreeRoot_container (fields : List SszValue) :
    hashTreeRoot (.container fields) = merkleize (fields.map hashTreeRoot) := by
  have hfields : fieldRoots fields = fields.map hashTreeRoot := by
    induction fields with
    | nil => rfl
    | cons field fields ih => rw [fieldRoots, ih, List.map_cons]
  rw [hashTreeRoot, hfields]

theorem hashTreeRoot_uint64 (n : UInt64) : hashTreeRoot (.uint n.toBitVec) = uint64Chunk n := by
  have hne : (ByteVector.littleEndian 8 n.toNat).toList ≠ [] :=
    List.ne_nil_of_length_pos (by simp)
  rw [hashTreeRoot, UInt64.toNat_toBitVec, serializeUint_eq,
    pack_of_length_le hne (by simp), merkleize_singleton]
  rfl

theorem hashTreeRoot_bytes {n : Nat} (v : ByteVector n) (hpos : 0 < n) (hle : n ≤ 32) :
    hashTreeRoot (.bytes v) = chunk v.toList := by
  have hne : v.toList ≠ [] := List.ne_nil_of_length_pos (by simpa using hpos)
  rw [hashTreeRoot, pack_of_length_le hne (by simpa using hle), merkleize_singleton]

theorem hashTreeRoot_root (r : Root) : hashTreeRoot (.bytes r) = r := by
  rw [hashTreeRoot_bytes r (by decide) (by decide)]
  apply Vector.toList_inj.mp
  rw [toList_chunk, List.take_left' (by simp)]

theorem hashTreeRoot_publicKey (key : Bls.PublicKey) :
    hashTreeRoot (.bytes key) = publicKeyRoot key := by
  have hne : key.toList ≠ [] := List.ne_nil_of_length_pos (by simp)
  have hrest : key.toList.drop 32 ≠ [] := List.ne_nil_of_length_pos (by simp)
  rw [hashTreeRoot, pack_eq_cons hne, pack_of_length_le hrest (by simp), merkleize_pair]
  rfl

/-! ## Roots of containers -/

theorem hashTreeRoot_registrationContainer (m : RegistrationMessage) :
    hashTreeRoot (registrationContainer m) = registrationRoot m := by
  rw [registrationContainer, hashTreeRoot_container]
  simp only [List.map_cons, List.map_nil]
  rw [merkleize_four, hashTreeRoot_bytes m.feeRecipient (by decide) (by decide),
    hashTreeRoot_uint64, hashTreeRoot_uint64, hashTreeRoot_publicKey]
  rfl

theorem hashTreeRoot_forkDataContainer (version : ByteVector 4) (root : Root) :
    hashTreeRoot (forkDataContainer version root) = forkDataRoot version root := by
  rw [forkDataContainer, hashTreeRoot_container]
  simp only [List.map_cons, List.map_nil]
  rw [merkleize_pair, hashTreeRoot_bytes version (by decide) (by decide), hashTreeRoot_root]
  rfl

theorem computeSigningRoot_eq (objectRoot domain : Root) :
    computeSigningRoot objectRoot domain = signingRoot objectRoot domain := by
  rw [computeSigningRoot, signingDataContainer, hashTreeRoot_container]
  simp only [List.map_cons, List.map_nil]
  rw [merkleize_pair, hashTreeRoot_root, hashTreeRoot_root]
  rfl

theorem toList_computeDomain (domainType : ByteVector 4) (version : ForkVersion) (root : Root) :
    (computeDomain domainType version root).toList =
      domainType.toList ++ (forkDataRoot version.bytes root).toList.take 28 := by
  rw [computeDomain, toList_chunk, List.take_left' (by simp)]

/-- The roots are those of the specification, a domain is its type and the first 28 bytes of the
root of the fork data, and the message of every signature, made or verified, is the signing root of
the object under the domain. -/
theorem roots_of_specification :
    (∀ m, registrationRoot m = hashTreeRoot (registrationContainer m)) ∧
    (∀ version root, forkDataRoot version root = hashTreeRoot (forkDataContainer version root)) ∧
    (∀ objectRoot domain,
      signingRoot objectRoot domain = hashTreeRoot (signingDataContainer objectRoot domain)) ∧
    (∀ domainType version root, (computeDomain domainType version root).toList =
      domainType.toList ++ (hashTreeRoot (forkDataContainer version.bytes root)).toList.take 28) ∧
    (∀ (bls : Bls.Scheme) key objectRoot domain,
      sign bls key objectRoot domain =
        bls.sign key (computeSigningRoot objectRoot domain).toList) ∧
    (∀ (bls : Bls.Scheme) key signature objectRoot domain,
      verify bls key signature objectRoot domain =
        bls.verify key signature (computeSigningRoot objectRoot domain).toList) ∧
    ∀ (bls : Bls.Scheme) domain r, verifyRegistration bls domain r =
      bls.verify r.message.publicKey r.signature
        (computeSigningRoot (hashTreeRoot (registrationContainer r.message)) domain).toList := by
  refine ⟨fun m => (hashTreeRoot_registrationContainer m).symm,
    fun version root => (hashTreeRoot_forkDataContainer version root).symm,
    fun objectRoot domain => (computeSigningRoot_eq objectRoot domain).symm, ?_, ?_, ?_, ?_⟩
  · intro domainType version root
    rw [toList_computeDomain, hashTreeRoot_forkDataContainer]
  · intro bls key objectRoot domain
    rw [computeSigningRoot_eq, sign]
  · intro bls key signature objectRoot domain
    rw [computeSigningRoot_eq, verify]
  · intro bls domain r
    rw [computeSigningRoot_eq, hashTreeRoot_registrationContainer, verifyRegistration, verify]

end Signing

end BuilderRelay
