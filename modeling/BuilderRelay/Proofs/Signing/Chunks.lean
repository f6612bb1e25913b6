import BuilderRelay.Signing.Roots
import Mathlib.Data.Nat.Bitwise

/-!
# Chunks lose nothing

A chunk pads on the right, so byte strings of one length that fit into it are told apart by their
chunks; a public key takes two. A number is told apart by its bytes, because each of its bits stands
in one of them.
-/

namespace BuilderRelay

/-- Bit `j` of a number is bit `j % 8` of its byte `j / 8`. -/
theorem ByteVector.testBit_eq_littleEndian {k n j : Nat} (h : j / 8 < k) :
    n.testBit j = (littleEndian k n)[j / 8].toNat.testBit (j % 8) := by
  have hbit : j % 8 < 8 := Nat.mod_lt j (by decide)
  rw [littleEndian, Vector.getElem_ofFn, UInt8.toNat_ofNat', Nat.testBit_mod_two_pow,
    decide_eq_true hbit, Bool.true_and, Nat.testBit_shiftRight, Nat.div_add_mod]

theorem ByteVector.eq_of_littleEndian_eq {k n m : Nat} (hn : n < 2 ^ (8 * k)) (hm : m < 2 ^ (8 * k))
    (h : littleEndian k n = littleEndian k m) : n = m := by
  apply Nat.eq_of_testBit_eq
  intro j
  by_cases hj : j / 8 < k
  · rw [testBit_eq_littleEndian hj, testBit_eq_littleEndian hj, h]
  · have hle : 2 ^ (8 * k) ≤ 2 ^ j := Nat.pow_le_pow_right (by decide) (by omega)
    rw [Nat.testBit_lt_two_pow (hn.trans_le hle), Nat.testBit_lt_two_pow (hm.trans_le hle)]

namespace Signing

theorem toList_chunk (bytes : Bytes) :
    (chunk bytes).toList = (bytes ++ List.replicate 32 0).take 32 := by
  apply List.ext_getElem
  · simp
  · intro i hi _
    have hlt : i < 32 := by simpa using hi
    by_cases hb : i < bytes.length
    · simp [chunk, hb]
    · have hle : bytes.length ≤ i := Nat.le_of_not_lt hb
      rw [List.getElem_take, List.getElem_append_right hle, List.getElem_replicate]
      simp [chunk, hb]

/-- Of byte strings of one length, a chunk keeps the first 32 bytes. -/
theorem take_eq_of_chunk_eq {b c : Bytes} (hlength : b.length = c.length)
    (h : chunk b = chunk c) : b.take 32 = c.take 32 := by
  have hlists := congrArg Vector.toList h
  rw [toList_chunk, toList_chunk, List.take_append, List.take_append, hlength] at hlists
  exact List.append_cancel_right hlists

theorem eq_of_chunk_eq {b c : Bytes} (hlength : b.length = c.length) (hle : c.length ≤ 32)
    (h : chunk b = chunk c) : b = c := by
  have htake := take_eq_of_chunk_eq hlength h
  rwa [List.take_of_length_le (hlength ▸ hle), List.take_of_length_le hle] at htake

theorem vector_eq_of_chunk_eq {n : Nat} (hn : n ≤ 32) {v w : ByteVector n}
    (h : chunk v.toList = chunk w.toList) : v = w := by
  have hlists : v.toList = w.toList := eq_of_chunk_eq (by simp) (by simpa using hn) h
  exact Vector.toList_inj.mp hlists

theorem uint64Chunk_injective {n m : UInt64} (h : uint64Chunk n = uint64Chunk m) : n = m := by
  have hbytes : ByteVector.littleEndian 8 n.toNat = ByteVector.littleEndian 8 m.toNat :=
    vector_eq_of_chunk_eq (by decide) h
  exact UInt64.toNat_inj.mp
    (ByteVector.eq_of_littleEndian_eq n.toNat_lt m.toNat_lt hbytes)

/-- The two chunks of a public key are its first 32 bytes and the rest. -/
theorem publicKey_eq_of_chunks_eq {k l : Bls.PublicKey} (hfirst : chunk k.toList = chunk l.toList)
    (hrest : chunk (k.toList.drop 32) = chunk (l.toList.drop 32)) : k = l := by
  have hlength : k.toList.length = l.toList.length := by simp
  have htake : k.toList.take 32 = l.toList.take 32 := take_eq_of_chunk_eq hlength hfirst
  have hdrop : k.toList.drop 32 = l.toList.drop 32 :=
    eq_of_chunk_eq (by simp) (by simp) hrest
  have hlists : k.toList = l.toList := by
    rw [← List.take_append_drop 32 k.toList, htake, hdrop, List.take_append_drop]
  exact Vector.toList_inj.mp hlists

end Signing

end BuilderRelay
