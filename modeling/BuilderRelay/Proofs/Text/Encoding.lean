import BuilderRelay.Hex
import BuilderRelay.Text.Utf8

/-!
# Texts as bytes

Every text is what its bytes decode to. Bytes of texts come one character after the other, and a
character of ASCII is one byte.
-/

namespace BuilderRelay.Utf8

def encodeChars (cs : List Char) : Bytes := cs.flatMap String.utf8EncodeChar

theorem encode_eq (s : String) : encode s = encodeChars s.toList := rfl

@[simp] theorem encodeChars_nil : encodeChars [] = [] := rfl

@[simp] theorem encodeChars_cons (c : Char) (cs : List Char) :
    encodeChars (c :: cs) = String.utf8EncodeChar c ++ encodeChars cs := by
  simp [encodeChars]

@[simp] theorem encodeChars_append (cs ds : List Char) :
    encodeChars (cs ++ ds) = encodeChars cs ++ encodeChars ds := by
  simp [encodeChars]

@[simp] theorem encode_append (s t : String) : encode (s ++ t) = encode s ++ encode t := by
  simp [encode_eq, String.toList_append]

@[simp] theorem encode_ofList (cs : List Char) : encode (.ofList cs) = encodeChars cs := by
  simp [encode_eq]

theorem toByteArray_encode (s : String) : (⟨(encode s).toArray⟩ : ByteArray) = s.toByteArray := by
  rw [← String.utf8Encode_toList]
  apply ByteArray.ext
  simp [encode, List.utf8Encode]

theorem decode_encode (s : String) : decode (encode s) = some s := by
  have hvalid : (⟨(encode s).toArray⟩ : ByteArray).IsValidUTF8 := by
    rw [toByteArray_encode]
    exact s.isValidUTF8
  unfold decode String.fromUTF8?
  rw [dif_pos hvalid, Option.some_inj, ← String.toByteArray_inj]
  exact toByteArray_encode s

/-- Only the bytes of a text are decoded. -/
theorem eq_encode_of_decode {bytes : Bytes} {s : String} (h : decode bytes = some s) :
    bytes = encode s := by
  unfold decode String.fromUTF8? at h
  split at h
  · have hbytes : (⟨(encode s).toArray⟩ : ByteArray) = ⟨bytes.toArray⟩ := by
      rw [toByteArray_encode, ← Option.some.inj h]
      rfl
    have hlists := congrArg (fun bs : ByteArray => bs.data.toList) hbytes
    simpa using hlists.symm
  · cases h

theorem decode_eq_none {bytes : Bytes} (h : ∀ s, bytes ≠ encode s) : decode bytes = none := by
  cases hdecode : decode bytes with
  | none => rfl
  | some s => exact absurd (eq_encode_of_decode hdecode) (h s)

theorem encodeChar_of_ascii {c : Char} (h : c.toNat < 128) :
    String.utf8EncodeChar c = [UInt8.ofNat c.toNat] := by
  unfold String.utf8EncodeChar
  exact if_pos (Nat.le_of_lt_succ h)

theorem length_encodeChars_of_ascii {cs : List Char} (h : ∀ c ∈ cs, c.toNat < 128) :
    (encodeChars cs).length = cs.length := by
  induction cs with
  | nil => rfl
  | cons c cs ih =>
      obtain ⟨hc, hcs⟩ := List.forall_mem_cons.mp h
      rw [encodeChars_cons, encodeChar_of_ascii hc, List.singleton_append, List.length_cons, ih hcs,
        List.length_cons]

/-- Other characters are made of bytes that are not ASCII. -/
theorem le_of_mem_encodeChar {c : Char} (h : 128 ≤ c.toNat) {b : UInt8}
    (hb : b ∈ String.utf8EncodeChar c) : 128 ≤ b.toNat := by
  have hlt : ¬ c.val.toNat ≤ 127 := Nat.not_le.mpr h
  unfold String.utf8EncodeChar at hb
  simp only [hlt, if_false] at hb
  split at hb
  · simp at hb
    rcases hb with rfl | rfl <;> simp <;> omega
  · split at hb
    · simp at hb
      rcases hb with rfl | rfl | rfl <;> simp <;> omega
    · simp at hb
      rcases hb with rfl | rfl | rfl | rfl <;> simp <;> omega

/-- A byte of ASCII in a character is the whole character. -/
theorem toNat_of_mem_encodeChar {c : Char} {b : UInt8} (hb : b ∈ String.utf8EncodeChar c)
    (h : b.toNat < 128) : c.toNat = b.toNat := by
  by_cases hc : c.toNat < 128
  · rw [encodeChar_of_ascii hc, List.mem_singleton] at hb
    rw [hb, UInt8.toNat_ofNat']
    omega
  · have hle := le_of_mem_encodeChar (Nat.le_of_not_lt hc) hb
    omega

end BuilderRelay.Utf8
