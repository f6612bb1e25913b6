import BuilderRelay.Proofs.Text.Encoding
import BuilderRelay.Text.Number

/-!
# Numerals

The hexadecimal digits of a byte string as bytes, and decimal digits that are read as the number
they were written for.
-/

namespace BuilderRelay

open Utf8

/-! ## Hexadecimal -/

namespace Hex

theorem digit_lt : ∀ n < 16, (digit n).toNat < 128 := by decide

/-- The bytes of the digits of one byte. -/
def digitBytes (b : UInt8) : Bytes :=
  [UInt8.ofNat (digit (b.toNat / 16)).toNat, UInt8.ofNat (digit (b.toNat % 16)).toNat]

theorem encode_encode (bytes : Bytes) : Utf8.encode (encode bytes) = bytes.flatMap digitBytes := by
  rw [encode, encode_ofList, digits]
  induction bytes with
  | nil => rfl
  | cons b bytes ih =>
      have hb := b.toNat_lt
      rw [List.flatMap_cons, encodeChars_append, ih, List.flatMap_cons, encodeChars_cons,
        encodeChars_cons, encodeChar_of_ascii (digit_lt _ (by omega)),
        encodeChar_of_ascii (digit_lt _ (by omega))]
      rfl

theorem toList_encodePrefixed (bytes : Bytes) :
    (encodePrefixed bytes).toList = '0' :: 'x' :: digits bytes := by
  simp [encodePrefixed, encode]

theorem length_encodePrefixed (bytes : Bytes) :
    (encodePrefixed bytes).toList.length = 2 * bytes.length + 2 := by
  have hdigits : (digits bytes).length = 2 * bytes.length := by
    rw [digits, List.length_flatMap]
    simp only [List.length_cons, List.length_nil, List.map_const', List.sum_replicate_nat]
    omega
  rw [toList_encodePrefixed, List.length_cons, List.length_cons, hdigits]

theorem encode_encodePrefixed (bytes : Bytes) :
    Utf8.encode (encodePrefixed bytes) = 0x30 :: 0x78 :: bytes.flatMap digitBytes := by
  rw [encodePrefixed, encode_append, encode_encode]
  rfl

theorem length_flatMap_digitBytes (bytes : Bytes) :
    (bytes.flatMap digitBytes).length = 2 * bytes.length := by
  induction bytes with
  | nil => rfl
  | cons b bytes ih =>
      rw [List.flatMap_cons, List.length_append, ih]
      simp only [digitBytes, List.length_cons, List.length_nil]
      omega

end Hex

/-! ## Decimal -/

namespace Text

theorem digitValue_of_isDigit {c : Char} (h : c.isDigit) :
    digitValue c = some (c.toNat - '0'.toNat) := by
  have hrange := Char.isDigit_iff_toNat.mp h
  exact if_pos hrange

theorem le_ofDigitChars (cs : List Char) (value : Nat) : value ≤ Nat.ofDigitChars 10 cs value := by
  rw [Nat.ofDigitChars_eq_ofDigitChars_zero]
  have hpos : 1 ≤ 10 ^ cs.length := Nat.one_le_pow _ _ (by decide)
  have hle : 1 * value ≤ 10 ^ cs.length * value := Nat.mul_le_mul_right _ hpos
  omega

/-- Digits are read as their number, if that is in the range. -/
theorem readDigits_eq {limit : Nat} {overflow : NumberFault} {cs : List Char}
    (hdigits : ∀ c ∈ cs, c.isDigit) {value : Nat} (h : Nat.ofDigitChars 10 cs value ≤ limit) :
    readDigits limit overflow value cs = .ok (Nat.ofDigitChars 10 cs value) := by
  induction cs generalizing value with
  | nil => rw [readDigits, Nat.ofDigitChars_nil]
  | cons c cs ih =>
      obtain ⟨hc, hcs⟩ := List.forall_mem_cons.mp hdigits
      rw [Nat.ofDigitChars_cons, Nat.mul_comm 10 value] at h
      have hle := le_ofDigitChars cs (value * 10 + (c.toNat - '0'.toNat))
      rw [readDigits, digitValue_of_isDigit hc, Nat.ofDigitChars_cons, Nat.mul_comm 10 value]
      simp only [if_pos (Nat.le_trans hle h)]
      exact ih hcs h

/-- One or more decimal digits that denote the number, behind a plus sign or not. -/
def IsNumeral (text : String) (n : Nat) : Prop :=
  ∃ ds, (text.toList = ds ∨ text.toList = '+' :: ds) ∧ ds ≠ [] ∧ (∀ c ∈ ds, c.isDigit) ∧
    Nat.ofDigitChars 10 ds 0 = n

theorem isDigit_of_digitValue {c : Char} {d : Nat} (h : digitValue c = some d) :
    c.isDigit ∧ d = c.toNat - '0'.toNat := by
  rw [digitValue] at h
  split at h
  · rename_i hrange
    exact ⟨Char.isDigit_iff_toNat.mpr hrange, (Option.some.inj h).symm⟩
  · cases h

/-- Only digits are read, and as their number. -/
theorem of_readDigits_eq_ok {limit : Nat} {overflow : NumberFault} {cs : List Char} {value n : Nat}
    (hvalue : value ≤ limit) (h : readDigits limit overflow value cs = .ok n) :
    (∀ c ∈ cs, c.isDigit) ∧ Nat.ofDigitChars 10 cs value = n ∧ n ≤ limit := by
  induction cs generalizing value with
  | nil =>
      cases h
      exact ⟨by simp, Nat.ofDigitChars_nil, hvalue⟩
  | cons c cs ih =>
      rw [readDigits] at h
      split at h
      · cases h
      · rename_i d hd
        obtain ⟨hc, rfl⟩ := isDigit_of_digitValue hd
        split at h
        · rename_i hle
          obtain ⟨hcs, hnumber, hn⟩ := ih hle h
          refine ⟨List.forall_mem_cons.mpr ⟨hc, hcs⟩, ?_, hn⟩
          rw [Nat.ofDigitChars_cons, Nat.mul_comm 10 value, hnumber]
        · cases h

theorem readUnsigned_eq_ok_iff {limit n : Nat} {text : String} :
    readUnsigned limit text = .ok n ↔ IsNumeral text n ∧ n ≤ limit := by
  constructor
  · intro h
    have hread {ds : List Char} (htext : text.toList = ds ∨ text.toList = '+' :: ds)
        (hne : ds ≠ []) (h : readDigits limit .tooLarge 0 ds = .ok n) :
        IsNumeral text n ∧ n ≤ limit := by
      obtain ⟨hdigits, hnumber, hn⟩ := of_readDigits_eq_ok (Nat.zero_le _) h
      exact ⟨⟨ds, htext, hne, hdigits, hnumber⟩, hn⟩
    unfold readUnsigned at h
    split at h
    · cases h
    · cases h
    · rename_i ds hne htext
      exact hread (.inr htext) hne h
    · rename_i hne _ _
      exact hread (.inl rfl) hne h
  · rintro ⟨⟨ds, htext, hne, hdigits, rfl⟩, hn⟩
    have hread : readDigits limit .tooLarge 0 ds = .ok (Nat.ofDigitChars 10 ds 0) :=
      readDigits_eq hdigits hn
    obtain ⟨d, ds, rfl⟩ := List.exists_cons_of_ne_nil hne
    have hplus : d ≠ '+' := by
      rintro rfl
      exact absurd (hdigits '+' List.mem_cons_self) (by decide)
    rcases htext with htext | htext
    · simp only [readUnsigned, htext]
      split
      · rename_i hnil
        cases hnil
      · rename_i hsign
        exact absurd (List.cons.inj hsign).1 hplus
      · rename_i hsign
        exact absurd (List.cons.inj hsign).1 hplus
      · exact hread
    · simp only [readUnsigned, htext]
      exact hread

theorem toList_toString (n : Nat) : (toString n).toList = Nat.toDigits 10 n := Nat.toList_repr

theorem isDigit_of_mem_toDigits {n : Nat} {c : Char} (h : c ∈ Nat.toDigits 10 n) : c.isDigit :=
  Nat.isDigit_of_mem_toDigits (by decide) (by decide) h

theorem isDigit_of_mem_toString {n : Nat} {c : Char} (h : c ∈ (toString n).toList) : c.isDigit := by
  rw [toList_toString] at h
  exact isDigit_of_mem_toDigits h

theorem readUnsigned_toString {limit n : Nat} (h : n ≤ limit) :
    readUnsigned limit (toString n) = .ok n := by
  refine readUnsigned_eq_ok_iff.mpr ⟨⟨Nat.toDigits 10 n, ?_, ?_, ?_, ?_⟩, h⟩
  · exact .inl (toList_toString n)
  · exact Nat.toDigits_ne_nil
  · exact fun c hc => isDigit_of_mem_toDigits hc
  · exact Nat.ofDigitChars_ten_toDigits

/-- Numbers have different digits. -/
theorem toString_injective {n m : Nat} (h : toString n = toString m) : n = m := by
  have hdigits : Nat.toDigits 10 n = Nat.toDigits 10 m := by
    rw [← toList_toString, ← toList_toString]
    exact congrArg String.toList h
  rw [← Nat.ofDigitChars_ten_toDigits (n := n), hdigits, Nat.ofDigitChars_ten_toDigits]

/-- A 64-bit number is recovered from its digits. -/
theorem readUInt64_toString (n : UInt64) : readUInt64 (toString n.toNat) = .ok n := by
  have hle : n.toNat ≤ UInt64.size - 1 := Nat.le_sub_one_of_lt n.toNat_lt
  rw [readUInt64, readUnsigned_toString hle]
  simp [Except.map]

/-- The texts of 64-bit numbers are their numerals. -/
theorem readUInt64_eq_ok_iff {text : String} {n : UInt64} :
    readUInt64 text = .ok n ↔ IsNumeral text n.toNat := by
  have hsize : UInt64.size = 2 ^ 64 := rfl
  constructor
  · intro h
    rw [readUInt64] at h
    cases hread : readUnsigned (UInt64.size - 1) text with
    | error fault =>
        rw [hread] at h
        cases h
    | ok m =>
        rw [hread] at h
        cases h
        obtain ⟨hnumeral, hle⟩ := readUnsigned_eq_ok_iff.mp hread
        rwa [UInt64.toNat_ofNat', Nat.mod_eq_of_lt (by omega)]
  · intro h
    have hlt := n.toNat_lt
    rw [readUInt64, readUnsigned_eq_ok_iff.mpr ⟨h, by omega⟩]
    simp [Except.map]

end Text

end BuilderRelay
