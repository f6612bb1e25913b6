import BuilderRelay.Proofs.Json.Reading
import BuilderRelay.Proofs.Text.Numerals

/-!
# Fields of fixed width, and numbers in quotes, are read back

A byte field is read from its digits in either case, with or without the prefix, and so from what is
written of it. A number in quotes needs no escapes. Neither can be longer than its type allows.
-/

namespace BuilderRelay.Json

open Utf8

namespace HexDigits

variable {bytes ds : Bytes}

theorem decodePairs (h : HexDigits bytes ds) : decodePairs ds = bytes := by
  induction h with
  | nil => rfl
  | cons hhigh hlow _ ih =>
      rw [Json.decodePairs, hexValue_of_isHexDigit hhigh, hexValue_of_isHexDigit hlow]
      simp only [Option.getD_some, Nat.div_add_mod', UInt8.ofNat_toNat]
      rw [ih]

theorem isSome_hexValue (h : HexDigits bytes ds) : ∀ d ∈ ds, (hexValue d).isSome := by
  induction h with
  | nil => simp
  | cons hhigh hlow _ ih =>
      simp only [List.forall_mem_cons, hexValue_of_isHexDigit hhigh, hexValue_of_isHexDigit hlow,
        Option.isSome_some, true_and]
      exact ih

theorem length_eq (h : HexDigits bytes ds) : ds.length = 2 * bytes.length := by
  induction h with
  | nil => rfl
  | cons _ _ _ ih =>
      simp only [List.length_cons, ih]
      omega

theorem firstBadDigit (h : HexDigits bytes ds) : firstBadDigit ds = none := by
  rw [Json.firstBadDigit, List.find?_eq_none]
  intro pair hpair
  have hvalue := h.isSome_hexValue pair.1 (List.fst_mem_of_mem_zipIdx hpair)
  simp [Option.isNone_iff_eq_none, Option.ne_none_iff_isSome.mpr hvalue]

/-- Digits do not look like a prefix. -/
theorem withoutPrefix (h : HexDigits bytes ds) : withoutPrefix ds = ds := by
  cases h with
  | nil => rfl
  | cons hhigh hlow hds =>
      rename_i low _ _
      have hlow' := hexValue_of_isHexDigit hlow
      have hletter : ¬ (low = 0x78 ∨ low = 0x58) := by
        rintro (rfl | rfl) <;> cases hlow'
      simp only [Json.withoutPrefix, hletter, and_false, if_false]

theorem digitBytes (bytes : Bytes) : HexDigits bytes (bytes.flatMap Hex.digitBytes) := by
  induction bytes with
  | nil => exact .nil
  | cons b bytes ih =>
      have hb := b.toNat_lt
      exact .cons ⟨by omega, .inl rfl⟩ ⟨by omega, .inl rfl⟩ ih

end HexDigits

theorem HexText.withoutPrefix {bytes text : Bytes} (h : HexText bytes text) :
    HexDigits bytes (withoutPrefix text) := by
  obtain ⟨hpre, hds⟩ := h
  simp only [List.mem_cons, List.not_mem_nil, or_false] at hpre
  rcases hpre with rfl | rfl | rfl
  · rwa [List.nil_append, hds.withoutPrefix]
  · exact hds
  · exact hds

/-- A byte field is read from its digits in either case, with or without a prefix. -/
theorem hexField_hexText {n : Nat} {v : ByteVector n} {s : String}
    (h : HexText v.toList (encode s)) : hexField n s = .ok v := by
  have hdigits := h.withoutPrefix
  have hlength := hdigits.length_eq
  rw [Vector.length_toList] at hlength
  have heven : ¬ (withoutPrefix (encode s)).length % 2 ≠ 0 := by omega
  have hwidth : ¬ (withoutPrefix (encode s)).length ≠ 2 * n := by omega
  simp only [hexField, if_neg heven, if_neg hwidth, hdigits.firstBadDigit, hdigits.decodePairs,
    ByteVector.ofBytes?_toList]

theorem hexText_encodePrefixed (bytes : Bytes) :
    HexText bytes (encode (Hex.encodePrefixed bytes)) := by
  rw [Hex.encode_encodePrefixed]
  have hpre : [0x30, 0x78] ∈ [[], [0x30, 0x78], [(0x30 : UInt8), 0x58]] := by simp
  exact .mk hpre (.digitBytes bytes)

theorem hexField_encodePrefixed {n : Nat} (v : ByteVector n) :
    hexField n (Hex.encodePrefixed v.toList) = .ok v :=
  hexField_hexText (hexText_encodePrefixed v.toList)

theorem escapeChar_of_isDigit {c : Char} (h : c.isDigit) : escapeChar c = [c] := by
  have hrange := Char.isDigit_iff_toNat.mp h
  have hshort : c ∉ shortEscaped := by
    intro hmem
    simp only [shortEscaped, List.mem_cons, List.not_mem_nil, or_false] at hmem
    rcases hmem with rfl | rfl | rfl | rfl | rfl | rfl | rfl <;> exact absurd h (by decide)
  rw [escapeChar_of_notMem hshort, if_neg]
  simp only [Char.reduceToNat] at hrange
  omega

theorem flatMap_escapeChar_eq {cs : List Char} (h : ∀ c ∈ cs, escapeChar c = [c]) :
    cs.flatMap escapeChar = cs := by
  induction cs with
  | nil => rfl
  | cons c cs ih =>
      obtain ⟨hc, hcs⟩ := List.forall_mem_cons.mp h
      rw [List.flatMap_cons, hc, ih hcs]
      rfl

/-- Digits need no escapes. -/
theorem quotedNumber_eq (n : Nat) : quotedNumber n = quoted (toString n) := by
  have hplain : (Nat.toDigits 10 n).flatMap escapeChar = Nat.toDigits 10 n :=
    flatMap_escapeChar_eq fun c hc => escapeChar_of_isDigit (Text.isDigit_of_mem_toDigits hc)
  apply String.toList_inj.mp
  simp [quotedNumber, quoted, hplain]

/-! ## Lengths -/

theorem escapeChar_digit : ∀ n < 16, escapeChar (Hex.digit n) = [Hex.digit n] := by decide

theorem escapeChar_of_mem_digits {bytes : Bytes} {c : Char} (h : c ∈ Hex.digits bytes) :
    escapeChar c = [c] := by
  obtain ⟨b, _, hc⟩ := List.mem_flatMap.mp h
  have hb := b.toNat_lt
  simp only [List.mem_cons, List.not_mem_nil, or_false] at hc
  rcases hc with rfl | rfl
  · exact escapeChar_digit _ (by omega)
  · exact escapeChar_digit _ (by omega)

theorem length_quoted_encodePrefixed (bytes : Bytes) :
    (encode (quoted (Hex.encodePrefixed bytes))).length = 2 * bytes.length + 4 := by
  have hplain : ∀ c ∈ (Hex.encodePrefixed bytes).toList, escapeChar c = [c] := by
    rw [Hex.toList_encodePrefixed]
    intro c hc
    rcases List.mem_cons.mp hc with rfl | hc
    · decide
    rcases List.mem_cons.mp hc with rfl | hc
    · decide
    exact escapeChar_of_mem_digits hc
  rw [encode_quoted, stringBody, flatMap_escapeChar_eq hplain, ← encode_eq,
    Hex.encode_encodePrefixed]
  simp only [List.length_cons, List.length_append, List.length_nil,
    Hex.length_flatMap_digitBytes]

theorem length_quotedNumber (n : UInt64) : (encode (quotedNumber n.toNat)).length ≤ 22 := by
  have hdigits : ∀ c ∈ Nat.toDigits 10 n.toNat, c.isDigit := fun c hc =>
    Text.isDigit_of_mem_toDigits hc
  have hascii : ∀ c ∈ Nat.toDigits 10 n.toNat, c.toNat < 128 := fun c hc => by
    have hrange := (Char.isDigit_iff_toNat.mp (hdigits c hc)).2
    simp only [Char.reduceToNat] at hrange
    omega
  have hfew : (Nat.toDigits 10 n.toNat).length ≤ 20 :=
    (Nat.length_toDigits_le_iff (by decide) (by decide)).mpr (Nat.lt_trans n.toNat_lt (by decide))
  rw [quotedNumber_eq, encode_quoted, stringBody, Text.toList_toString,
    flatMap_escapeChar_eq fun c hc => escapeChar_of_isDigit (hdigits c hc)]
  simp only [List.length_cons, List.length_append, List.length_nil,
    length_encodeChars_of_ascii hascii]
  omega

end BuilderRelay.Json
