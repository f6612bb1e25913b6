import BuilderRelay.Proofs.Signing.Chunks

/-!
# Signatures bind the message and the network

What is signed is the root of a tree of chunks. One of the chunks is a domain, which keeps 28 bytes
of the hash of the fork data. Trees of one shape that have the same root have the same chunks, unless
two blocks that are hashed at the same place collide: they differ, but as much of their hashes as is
used is the same. So what is signed for one message and network is signed for no other, as long as
no blocks collide.
-/

namespace BuilderRelay.Signing

/-! ## Hashed blocks -/

def pairBlock (left right : Root) : Bytes := left.toList ++ right.toList

theorem length_pairBlock (left right : Root) : (pairBlock left right).length = 64 := by
  simp [pairBlock]

theorem pairBlock_inj {l r l' r' : Root} (h : pairBlock l r = pairBlock l' r') :
    l = l' ∧ r = r' := by
  have hlength : l.toList.length = l'.toList.length := by simp
  obtain ⟨hl, hr⟩ := List.append_inj h hlength
  exact ⟨Vector.toList_inj.mp hl, Vector.toList_inj.mp hr⟩

/-- A block that is hashed, and how many bytes of its hash are used. -/
structure HashedBlock where
  block : Bytes
  used : Nat

namespace HashedBlock

def digest (b : HashedBlock) : Bytes := (sha256 b.block).toList.take b.used

def ofPair (left right : Root) : HashedBlock := ⟨pairBlock left right, 32⟩

/-- As much of the hash of the fork data as a domain keeps. -/
def ofForkData (version : ForkVersion) (root : Root) : HashedBlock :=
  ⟨pairBlock (chunk version.bytes.toList) root, 28⟩

structure Collide (b c : HashedBlock) : Prop where
  block : b.block ≠ c.block
  digest : b.digest = c.digest

theorem digest_ofPair (l r : Root) : (ofPair l r).digest = (hashPair l r).toList := by
  have hlength : (sha256 (pairBlock l r)).toList.length ≤ 32 := by simp
  exact List.take_of_length_le hlength

theorem pair_eq_or_collide {l r l' r' : Root} (h : hashPair l r = hashPair l' r') :
    (l = l' ∧ r = r') ∨ (ofPair l r).Collide (ofPair l' r') := by
  by_cases hblock : pairBlock l r = pairBlock l' r'
  · exact .inl (pairBlock_inj hblock)
  · exact .inr ⟨hblock, by rw [digest_ofPair, digest_ofPair, h]⟩

end HashedBlock

open HashedBlock (ofPair ofForkData)

/-- Some blocks at the same place collide. -/
def Collision (bs cs : List HashedBlock) : Prop := ∃ p ∈ bs.zip cs, p.1.Collide p.2

theorem collision_cons {b c : HashedBlock} {bs cs : List HashedBlock} :
    Collision (b :: bs) (c :: cs) ↔ b.Collide c ∨ Collision bs cs := by
  simp [Collision]

theorem collision_append {bs cs bs' cs' : List HashedBlock} (h : bs.length = cs.length) :
    Collision (bs ++ bs') (cs ++ cs') ↔ Collision bs cs ∨ Collision bs' cs' := by
  simp only [Collision, List.zip_append h, List.mem_append, or_and_right, exists_or]

/-! ## Trees of chunks -/

inductive ChunkTree where
  | leaf (chunk : Root)
  | node (left right : ChunkTree)

namespace ChunkTree

def root : ChunkTree → Root
  | leaf chunk => chunk
  | node left right => hashPair left.root right.root

/-- What is hashed for the root, from the top down. -/
def blocks : ChunkTree → List HashedBlock
  | leaf _ => []
  | node left right => ofPair left.root right.root :: (left.blocks ++ right.blocks)

inductive SameShape : ChunkTree → ChunkTree → Prop
  | leaf (c d : Root) : SameShape (leaf c) (leaf d)
  | node {l r l' r' : ChunkTree} :
      SameShape l l' → SameShape r r' → SameShape (node l r) (node l' r')

variable {t u : ChunkTree}

theorem length_blocks (h : SameShape t u) : t.blocks.length = u.blocks.length := by
  induction h with
  | leaf c d => rfl
  | node hl hr ihl ihr => simp [blocks, ihl, ihr]

theorem length_of_mem_blocks {b : HashedBlock} (h : b ∈ t.blocks) : b.block.length = 64 := by
  induction t with
  | leaf c => cases h
  | node l r ihl ihr =>
      rcases List.mem_cons.mp h with rfl | hmem
      · exact length_pairBlock _ _
      · exact (List.mem_append.mp hmem).elim ihl ihr

/-- The root tells trees of one shape apart, as long as no blocks collide. -/
theorem eq_or_collision (h : SameShape t u) (hroot : t.root = u.root) :
    t = u ∨ Collision t.blocks u.blocks := by
  induction h with
  | leaf c d => exact .inl (congrArg leaf hroot)
  | node hl hr ihl ihr =>
      rw [blocks, blocks, collision_cons, collision_append (length_blocks hl)]
      -- A pair that is hashed to the same root is the same pair, and then both halves are settled.
      rcases HashedBlock.pair_eq_or_collide hroot with ⟨hleft, hright⟩ | hcollide
      · rcases ihl hleft with rfl | hcollision
        · rcases ihr hright with rfl | hcollision
          · exact .inl rfl
          · exact .inr (.inr (.inr hcollision))
        · exact .inr (.inr (.inl hcollision))
      · exact .inr (.inl hcollide)

end ChunkTree

/-! ## What is signed -/

open ChunkTree (leaf node SameShape)

def registrationTree (m : RegistrationMessage) : ChunkTree :=
  node (node (leaf (chunk m.feeRecipient.toList)) (leaf (uint64Chunk m.gasLimit)))
    (node (leaf (uint64Chunk m.timestamp))
      (node (leaf (chunk m.publicKey.toList)) (leaf (chunk (m.publicKey.toList.drop 32)))))

theorem root_registrationTree (m : RegistrationMessage) :
    (registrationTree m).root = registrationRoot m := rfl

theorem sameShape_registrationTree (m m' : RegistrationMessage) :
    SameShape (registrationTree m) (registrationTree m') :=
  .node (.node (.leaf _ _) (.leaf _ _)) (.node (.leaf _ _) (.node (.leaf _ _) (.leaf _ _)))

theorem registrationTree_injective {m m' : RegistrationMessage}
    (h : registrationTree m = registrationTree m') : m = m' := by
  cases m with
  | mk feeRecipient gasLimit timestamp publicKey =>
      cases m' with
      | mk feeRecipient' gasLimit' timestamp' publicKey' =>
          simp only [registrationTree, node.injEq, leaf.injEq] at h
          obtain ⟨⟨hfee, hgas⟩, htime, hfirst, hrest⟩ := h
          rw [vector_eq_of_chunk_eq (by decide) hfee, uint64Chunk_injective hgas,
            uint64Chunk_injective htime, publicKey_eq_of_chunks_eq hfirst hrest]

def signedTree (m : RegistrationMessage) (domain : Root) : ChunkTree :=
  node (registrationTree m) (leaf domain)

theorem root_signedTree (m : RegistrationMessage) (domain : Root) :
    (signedTree m domain).root = signingRoot (registrationRoot m) domain := by
  rw [signedTree, ChunkTree.root, root_registrationTree]
  rfl

def signedRoot (m : RegistrationMessage) (version : ForkVersion) : Root :=
  signingRoot (registrationRoot m) (builderDomain version)

/-- The blocks that are hashed for it, of which those of the fork data come first. -/
def signedBlocks (m : RegistrationMessage) (version : ForkVersion) : List HashedBlock :=
  ofForkData version (.zero 32) :: (signedTree m (builderDomain version)).blocks

theorem forkData_eq_or_collide {v w : ByteVector 4} {r s : Root}
    (h : forkDataRoot v r = forkDataRoot w s) :
    (v = w ∧ r = s) ∨ (ofPair (chunk v.toList) r).Collide (ofPair (chunk w.toList) s) := by
  rcases HashedBlock.pair_eq_or_collide h with ⟨hversion, hroot⟩ | hcollide
  · exact .inl ⟨vector_eq_of_chunk_eq (by decide) hversion, hroot⟩
  · exact .inr hcollide

/-- A domain shows its type, and 28 bytes of a hash. -/
theorem domain_eq_or_collide {t u : ByteVector 4} {v w : ForkVersion} {r s : Root}
    (h : computeDomain t v r = computeDomain u w s) :
    t = u ∧ ((v = w ∧ r = s) ∨ (ofForkData v r).Collide (ofForkData w s)) := by
  have hbytes := eq_of_chunk_eq (by simp) (by simp) h
  obtain ⟨htype, hdigest⟩ := List.append_inj hbytes (by simp)
  refine ⟨Vector.toList_inj.mp htype, ?_⟩
  by_cases hblock : (ofForkData v r).block = (ofForkData w s).block
  · obtain ⟨hversion, hroot⟩ := pairBlock_inj hblock
    have hvector : v.bytes = w.bytes := vector_eq_of_chunk_eq (by decide) hversion
    exact .inl ⟨congrArg ForkVersion.mk hvector, hroot⟩
  · exact .inr ⟨hblock, hdigest⟩

theorem signed_eq_or_collision {m m' : RegistrationMessage} {v w : ForkVersion}
    (h : signedRoot m v = signedRoot m' w) :
    (m = m' ∧ v = w) ∨ Collision (signedBlocks m v) (signedBlocks m' w) := by
  have hshape : SameShape (signedTree m (builderDomain v)) (signedTree m' (builderDomain w)) :=
    .node (sameShape_registrationTree m m') (.leaf _ _)
  rw [signedRoot, signedRoot, ← root_signedTree, ← root_signedTree] at h
  rw [signedBlocks, signedBlocks, collision_cons]
  rcases ChunkTree.eq_or_collision hshape h with htree | hcollision
  · simp only [signedTree, node.injEq, leaf.injEq] at htree
    obtain ⟨hregistration, hdomain⟩ := htree
    obtain ⟨-, ⟨hversion, -⟩ | hcollide⟩ := domain_eq_or_collide hdomain
    · exact .inl ⟨registrationTree_injective hregistration, hversion⟩
    · exact .inr (.inl hcollide)
  · exact .inr (.inr hcollision)

/-! ## Binding -/

/-- A root binds what it is computed from, as far as the hash tells apart the 64-byte blocks that are
hashed at the same place; where it does not, there are two that collide. -/
structure Binds {α : Type} (root : α → Root) (blocks : α → List HashedBlock) : Prop where
  eq_of_injective : ∀ x y, root x = root y →
    (∀ p ∈ (blocks x).zip (blocks y), p.1.digest = p.2.digest → p.1.block = p.2.block) → x = y
  collision : ∀ x y, root x = root y → x ≠ y → Collision (blocks x) (blocks y)
  length : ∀ x, ∀ b ∈ blocks x, b.block.length = 64

theorem Binds.of_eq_or_collision {α : Type} {root : α → Root} {blocks : α → List HashedBlock}
    (h : ∀ x y, root x = root y → x = y ∨ Collision (blocks x) (blocks y))
    (hlength : ∀ x, ∀ b ∈ blocks x, b.block.length = 64) : Binds root blocks where
  eq_of_injective x y hroot hinjective := by
    rcases h x y hroot with heq | ⟨p, hp, hcollide⟩
    · exact heq
    · exact absurd (hinjective p hp hcollide.digest) hcollide.block
  collision x y hroot hne := (h x y hroot).resolve_left hne
  length := hlength

theorem Binds.of_eq_or_collide {α : Type} {root : α → Root} {block : α → HashedBlock}
    (h : ∀ x y, root x = root y → x = y ∨ (block x).Collide (block y))
    (hlength : ∀ x, (block x).block.length = 64) : Binds root fun x => [block x] := by
  refine .of_eq_or_collision ?_ ?_
  · intro x y hroot
    exact (h x y hroot).imp_right fun hcollide => collision_cons.mpr (.inl hcollide)
  · intro x b hb
    rw [List.mem_singleton.mp hb]
    exact hlength x

/-- The root that is signed binds all of the message and the network; a domain binds its type, the
fork version and the genesis root; and so do the roots of fork data and of signing data what they
are made of. -/
theorem signed_root_binds :
    Binds (fun x : RegistrationMessage × ForkVersion => signedRoot x.1 x.2)
      (fun x => signedBlocks x.1 x.2) ∧
    Binds (fun x : ByteVector 4 × ForkVersion × Root => computeDomain x.1 x.2.1 x.2.2)
      (fun x => [ofForkData x.2.1 x.2.2]) ∧
    Binds (fun x : ByteVector 4 × Root => forkDataRoot x.1 x.2)
      (fun x => [ofPair (chunk x.1.toList) x.2]) ∧
    Binds (fun x : Root × Root => signingRoot x.1 x.2) (fun x => [ofPair x.1 x.2]) := by
  refine ⟨.of_eq_or_collision ?_ ?_, .of_eq_or_collide ?_ fun x => length_pairBlock _ _,
    .of_eq_or_collide ?_ fun x => length_pairBlock _ _,
    .of_eq_or_collide ?_ fun x => length_pairBlock _ _⟩
  · rintro ⟨m, v⟩ ⟨m', w⟩ h
    rcases signed_eq_or_collision h with ⟨hm, hv⟩ | hcollision
    · exact .inl (Prod.ext hm hv)
    · exact .inr hcollision
  · intro x b hb
    rcases List.mem_cons.mp hb with rfl | hmem
    · exact length_pairBlock _ _
    · exact ChunkTree.length_of_mem_blocks hmem
  · rintro ⟨t, v, r⟩ ⟨u, w, s⟩ h
    obtain ⟨htype, ⟨hversion, hroot⟩ | hcollide⟩ := domain_eq_or_collide h
    · exact .inl (Prod.ext htype (Prod.ext hversion hroot))
    · exact .inr hcollide
  · rintro ⟨v, r⟩ ⟨w, s⟩ h
    rcases forkData_eq_or_collide h with ⟨hversion, hroot⟩ | hcollide
    · exact .inl (Prod.ext hversion hroot)
    · exact .inr hcollide
  · rintro ⟨o, d⟩ ⟨o', d'⟩ h
    rcases HashedBlock.pair_eq_or_collide h with ⟨hobject, hdomain⟩ | hcollide
    · exact .inl (Prod.ext hobject hdomain)
    · exact .inr hcollide

end BuilderRelay.Signing
