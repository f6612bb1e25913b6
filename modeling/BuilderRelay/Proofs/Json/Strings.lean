import BuilderRelay.Json.Write
import BuilderRelay.Proofs.Json.Grammar
import BuilderRelay.Proofs.Text.Encoding

/-!
# Strings are read back

What is written between the quotes of a string is read one character after the other, whatever
escapes the characters are written with. So every text in quotes is read back.
-/

namespace BuilderRelay.Json

open Utf8

/-! ## The forms of a character -/

theorem readStringBytes_quote (acc rest : Bytes) :
    readStringBytes acc (0x22 :: rest) = .ok (acc.reverse, rest) := by
  rw [readStringBytes.eq_def]
  rfl

theorem readStringBytes_cons_plain {b : UInt8} (h : isPlain b) (acc rest : Bytes) :
    readStringBytes acc (b :: rest) = readStringBytes (b :: acc) rest := by
  obtain ⟨hquote, hescape, hcontrol⟩ := of_decide_eq_true h
  rw [readStringBytes.eq_def]
  simp only [hquote, hescape, hcontrol, if_false]

theorem readStringBytes_plain {bs : Bytes} (h : ∀ b ∈ bs, isPlain b) (acc rest : Bytes) :
    readStringBytes acc (bs ++ rest) = readStringBytes (bs.reverse ++ acc) rest := by
  induction bs generalizing acc with
  | nil => rfl
  | cons b bs ih =>
      obtain ⟨hb, hbs⟩ := List.forall_mem_cons.mp h
      rw [List.cons_append, readStringBytes_cons_plain hb, ih hbs]
      simp

theorem readStringBytes_escaped {e b : UInt8} (h : escapedByte e = some b) (he : e ≠ 0x75)
    (acc rest : Bytes) :
    readStringBytes acc (0x5c :: e :: rest) = readStringBytes (b :: acc) rest := by
  rw [readStringBytes.eq_def]
  simp [h, he]

theorem readStringBytes_codePoint {a b c d : UInt8} {n : Nat} (h : hexNumber a b c d = some n)
    (hlow : isLowSurrogate n = false) (hhigh : isHighSurrogate n = false) (acc rest : Bytes) :
    readStringBytes acc (0x5c :: 0x75 :: a :: b :: c :: d :: rest) =
      readStringBytes ((codePointBytes n).reverse ++ acc) rest := by
  rw [readStringBytes.eq_def]
  simp [h, hlow, hhigh]

/-- A pair of surrogates stands for one character. -/
theorem readStringBytes_surrogates {a b c d a' b' c' d' : UInt8} {n m : Nat}
    (h : hexNumber a b c d = some n) (h' : hexNumber a' b' c' d' = some m)
    (hhigh : isHighSurrogate n) (hlow : isLowSurrogate m) (acc rest : Bytes) :
    readStringBytes acc
        (0x5c :: 0x75 :: a :: b :: c :: d :: 0x5c :: 0x75 :: a' :: b' :: c' :: d' :: rest) =
      readStringBytes
        ((codePointBytes (0x10000 + (n - 0xd800) * 0x400 + (m - 0xdc00))).reverse ++ acc) rest := by
  have hnotLow : isLowSurrogate n = false := by
    simp only [isHighSurrogate, isLowSurrogate, Bool.and_eq_true, decide_eq_true_eq] at hhigh ⊢
    simp
    omega
  rw [readStringBytes.eq_def]
  simp [h, h', hnotLow, hhigh, hlow]

theorem isPlain_of_mem_encodeChar {c : Char} (hquote : c ≠ '"') (hescape : c ≠ '\\')
    (hcontrol : ¬ c.toNat < 0x20) {b : UInt8} (hb : b ∈ String.utf8EncodeChar c) : isPlain b := by
  by_cases hascii : c.toNat < 128
  · rw [encodeChar_of_ascii hascii, List.mem_singleton] at hb
    have htoNat : b.toNat = c.toNat := by
      rw [hb, UInt8.toNat_ofNat']
      omega
    have hne : c.toNat ≠ 0x22 := fun heq => hquote (Char.toNat_inj.mp heq)
    have hne' : c.toNat ≠ 0x5c := fun heq => hescape (Char.toNat_inj.mp heq)
    simp only [isPlain, ne_eq, ← UInt8.toNat_inj, UInt8.lt_iff_toNat_lt, htoNat]
    simp
    omega
  · have hle := le_of_mem_encodeChar (Nat.le_of_not_lt hascii) hb
    simp only [isPlain, ne_eq, ← UInt8.toNat_inj, UInt8.lt_iff_toNat_lt]
    simp
    omega

theorem not_surrogate (c : Char) :
    isLowSurrogate c.toNat = false ∧ isHighSurrogate c.toNat = false := by
  have hvalid : c.toNat < 0xd800 ∨ 0xdfff < c.toNat ∧ c.toNat < 0x110000 := c.valid
  simp only [isLowSurrogate, isHighSurrogate, Bool.and_eq_false_iff, decide_eq_false_iff_not]
  omega

theorem toNat_lt (c : Char) : c.toNat < 0x110000 := by
  have hvalid : c.toNat < 0xd800 ∨ 0xdfff < c.toNat ∧ c.toNat < 0x110000 := c.valid
  omega

theorem CharText.readStringBytes {c : Char} {t : Bytes} (h : CharText c t) (acc rest : Bytes) :
    readStringBytes acc (t ++ rest) =
      readStringBytes ((String.utf8EncodeChar c).reverse ++ acc) rest := by
  cases h with
  | itself hquote hescape hcontrol =>
      exact readStringBytes_plain
        (fun b hb => isPlain_of_mem_encodeChar hquote hescape (Nat.not_lt.mpr hcontrol) hb) acc rest
  | letter he =>
      obtain ⟨hbyte, hne, hascii⟩ := escapedByte_of_mem he
      rw [encodeChar_of_ascii hascii]
      exact readStringBytes_escaped hbyte hne acc rest
  | number hu =>
      obtain ⟨a, b, c', d, rfl, hnumber⟩ := hu.exists_digits
      obtain ⟨hlow, hhigh⟩ := not_surrogate c
      have hread := readStringBytes_codePoint hnumber hlow hhigh acc rest
      rwa [codePointBytes, Char.ofNat_toNat] at hread
  | pair hbig hu hu' =>
      obtain ⟨a, b, c', d, rfl, hnumber⟩ := hu.exists_digits
      obtain ⟨a', b', c'', d', rfl, hnumber'⟩ := hu'.exists_digits
      have hlimit := toNat_lt c
      have hhigh : isHighSurrogate (0xd800 + (c.toNat - 0x10000) / 0x400) := by
        simp only [isHighSurrogate, Bool.and_eq_true, decide_eq_true_eq]
        omega
      have hlow : isLowSurrogate (0xdc00 + (c.toNat - 0x10000) % 0x400) := by
        simp only [isLowSurrogate, Bool.and_eq_true, decide_eq_true_eq]
        omega
      have hvalue : 0x10000 + (0xd800 + (c.toNat - 0x10000) / 0x400 - 0xd800) * 0x400 +
          (0xdc00 + (c.toNat - 0x10000) % 0x400 - 0xdc00) = c.toNat := by omega
      have hread := readStringBytes_surrogates hnumber hnumber' hhigh hlow acc rest
      rwa [hvalue, codePointBytes, Char.ofNat_toNat] at hread

theorem CharsText.readStringBytes {cs : List Char} {t : Bytes} (h : CharsText cs t)
    (acc rest : Bytes) :
    readStringBytes acc (t ++ rest) = readStringBytes ((encodeChars cs).reverse ++ acc) rest := by
  induction h generalizing acc with
  | nil => rfl
  | cons hc _ ih =>
      rw [List.append_assoc, hc.readStringBytes, ih]
      simp

/-- A text is read from whatever stands for it between quotes. -/
theorem readString_charsText {s : String} {body : Bytes} (h : CharsText s.toList body)
    (rest : Bytes) : readString (body ++ 0x22 :: rest) = .ok (s, rest) := by
  have hbytes : readStringBytes [] (body ++ 0x22 :: rest) = .ok (encode s, rest) := by
    rw [h.readStringBytes, readStringBytes_quote]
    simp [encode_eq]
  simp only [readString, hbytes, decode_encode]

/-! ## Characters as they are written -/

/-- The characters that are written with escapes of one letter. -/
def shortEscaped : List Char := ['"', '\\', '\n', '\r', '\t', '\x08', '\x0c']

theorem escapeChar_of_notMem {c : Char} (h : c ∉ shortEscaped) :
    escapeChar c =
      if c.toNat < 0x20 then
        ['\\', 'u', '0', '0', lowerDigit (c.toNat / 16), lowerDigit (c.toNat % 16)]
      else [c] := by
  simp only [shortEscaped, List.mem_cons, List.not_mem_nil, or_false, not_or] at h
  obtain ⟨h₁, h₂, h₃, h₄, h₅, h₆, h₇⟩ := h
  simp only [escapeChar, h₁, h₂, h₃, h₄, h₅, h₆, h₇, if_false]

theorem isHexDigit_lowerDigit {n : Nat} (h : n < 16) :
    ∃ b, String.utf8EncodeChar (lowerDigit n) = [b] ∧ IsHexDigit n b := by
  have hcase : ∀ n < 16, (lowerDigit n).toNat < 128 ∧ lowerDigit n = Hex.digit n := by decide
  obtain ⟨hascii, hdigit⟩ := hcase n h
  exact ⟨_, encodeChar_of_ascii hascii, h, .inl (by rw [hdigit])⟩

/-- The escape of a control character. -/
theorem unitText_control {n : Nat} (h : n < 0x20) :
    UnitText n (encodeChars ['\\', 'u', '0', '0', lowerDigit (n / 16), lowerDigit (n % 16)]) := by
  obtain ⟨high, hencode, hhigh⟩ := isHexDigit_lowerDigit (n := n / 16) (by omega)
  obtain ⟨low, hencode', hlow⟩ := isHexDigit_lowerDigit (n := n % 16) (by omega)
  have hzero : IsHexDigit 0 0x30 := by unfold IsHexDigit; decide
  simp only [encodeChars_cons, hencode, hencode', encodeChars_nil]
  refine .mk ?_ ?_ ?_ hlow
  · rwa [Nat.div_eq_of_lt (by omega)]
  · rwa [Nat.div_eq_of_lt (by omega)]
  · rwa [Nat.mod_eq_of_lt (by omega)]

theorem charText_escapeChar (c : Char) : CharText c (encodeChars (escapeChar c)) := by
  by_cases hshort : c ∈ shortEscaped
  · simp only [shortEscaped, List.mem_cons, List.not_mem_nil, or_false] at hshort
    rcases hshort with rfl | rfl | rfl | rfl | rfl | rfl | rfl <;>
      exact .letter (by decide)
  · rw [escapeChar_of_notMem hshort]
    split
    · rename_i hcontrol
      exact .number (unitText_control hcontrol)
    · rename_i hcontrol
      simp only [shortEscaped, List.mem_cons, not_or] at hshort
      rw [encodeChars_cons, encodeChars_nil, List.append_nil]
      exact .itself hshort.1 hshort.2.1 (Nat.le_of_not_lt hcontrol)

theorem charsText_escaped (cs : List Char) :
    CharsText cs (encodeChars (cs.flatMap escapeChar)) := by
  induction cs with
  | nil => exact .nil
  | cons c cs ih =>
      rw [List.flatMap_cons, encodeChars_append]
      exact .cons (charText_escapeChar c) ih

/-- What stands between the quotes of a text. -/
def stringBody (s : String) : Bytes := encodeChars (s.toList.flatMap escapeChar)

theorem encode_quoted (s : String) : encode (quoted s) = 0x22 :: (stringBody s ++ [0x22]) := by
  rw [quoted, encode_ofList]
  rw [List.cons_append, encodeChars_cons, encodeChars_append]
  rfl

theorem stringText_quoted (s : String) : StringText s (encode (quoted s)) := by
  rw [encode_quoted]
  exact .mk (charsText_escaped s.toList)

end BuilderRelay.Json
