import BuilderRelay.Proofs.Text.PrefixedHex
import BuilderRelay.Url.Percent

/-!
# Percent decoding

What percent-encoded bytes stand for: a percent sign and two hexadecimal digits for one byte, any
other byte for itself. There is one reading of any bytes, and decoding gives it.
-/

namespace BuilderRelay.Percent

/-- The byte of a hexadecimal digit of value `n`, in either case. -/
def IsHexDigit (n : Nat) (b : UInt8) : Prop := Hex.IsDigit n (Char.ofNat b.toNat)

/-- The bytes begin with a percent sign and two digits. -/
def Escape (bytes : Bytes) : Prop :=
  ∃ high low rest n m, bytes = percentSign :: high :: low :: rest ∧ IsHexDigit n high ∧
    IsHexDigit m low

inductive Decodes : Bytes → Bytes → Prop
  | nil : Decodes [] []
  | escaped {b high low : UInt8} {rest out : Bytes} :
      IsHexDigit (b.toNat / 16) high → IsHexDigit (b.toNat % 16) low → Decodes rest out →
      Decodes (percentSign :: high :: low :: rest) (b :: out)
  | plain {b : UInt8} {rest out : Bytes} :
      ¬ Escape (b :: rest) → Decodes rest out → Decodes (b :: rest) (b :: out)

/-! ## Digits -/

theorem hexDigit_eq (b : UInt8) :
    hexDigit b = (Hex.alphabet.idxOf? (Char.ofNat b.toNat).toLower).map UInt8.ofNat := by
  have htable : ∀ n < 256, hexDigit (UInt8.ofNat n) =
      (Hex.alphabet.idxOf? (Char.ofNat n).toLower).map UInt8.ofNat := by decide +kernel
  have hb := htable b.toNat b.toNat_lt
  rwa [UInt8.ofNat_toNat] at hb

theorem IsHexDigit.lt {n : Nat} {b : UInt8} (h : IsHexDigit n b) : n < 16 :=
  (Hex.isDigit_iff.mp h).1

theorem hexDigit_of_isHexDigit {n : Nat} {b : UInt8} (h : IsHexDigit n b) :
    hexDigit b = some (UInt8.ofNat n) := by
  rw [IsHexDigit, Hex.IsDigit] at h
  rw [hexDigit_eq, h, Option.map_some]

theorem isHexDigit_of_hexDigit {b d : UInt8} (h : hexDigit b = some d) :
    IsHexDigit d.toNat b := by
  rw [hexDigit_eq] at h
  obtain ⟨n, hn, rfl⟩ := Option.map_eq_some_iff.mp h
  have hdigit : IsHexDigit n b := hn
  have hlt := hdigit.lt
  rwa [UInt8.toNat_ofNat', Nat.mod_eq_of_lt (by omega)]

/-! ## Decoding -/

theorem decode_escaped {b high low : UInt8} (hhigh : IsHexDigit (b.toNat / 16) high)
    (hlow : IsHexDigit (b.toNat % 16) low) (rest : Bytes) :
    decode (percentSign :: high :: low :: rest) = b :: decode rest := by
  have hbyte : UInt8.ofNat (b.toNat / 16) * 16 + UInt8.ofNat (b.toNat % 16) = b := by
    apply UInt8.toNat_inj.mp
    have hb := b.toNat_lt
    simp only [UInt8.toNat_add, UInt8.toNat_mul, UInt8.toNat_ofNat', UInt8.reduceToNat]
    omega
  simp only [decode, hexDigit_of_isHexDigit hhigh, hexDigit_of_isHexDigit hlow, beq_self_eq_true,
    hbyte]

theorem decode_plain {b : UInt8} {rest : Bytes} (h : ¬ Escape (b :: rest)) :
    decode (b :: rest) = b :: decode rest := by
  match rest with
  | [] => rfl
  | [_] => rfl
  | high :: low :: tail =>
      rw [decode]
      split
      · rename_i hsign hhigh hlow
        rw [beq_iff_eq] at hsign
        exact absurd ⟨high, low, tail, _, _, by rw [hsign], isHexDigit_of_hexDigit hhigh,
          isHexDigit_of_hexDigit hlow⟩ h
      · rfl

theorem decode_of_decodes {bytes out : Bytes} (h : Decodes bytes out) : decode bytes = out := by
  induction h with
  | nil => rfl
  | escaped hhigh hlow _ ih => rw [decode_escaped hhigh hlow, ih]
  | plain hplain _ ih => rw [decode_plain hplain, ih]

theorem exists_decodes (bytes : Bytes) : ∃ out, Decodes bytes out := by
  induction hlength : bytes.length using Nat.strongRecOn generalizing bytes with
  | ind _ ih =>
      subst hlength
      by_cases hescape : Escape bytes
      · obtain ⟨high, low, rest, n, m, rfl, hhigh, hlow⟩ := hescape
        obtain ⟨out, hout⟩ := ih rest.length (by simp only [List.length_cons]; omega) rest rfl
        obtain ⟨b, rfl, rfl⟩ := Hex.exists_byte hhigh.lt hlow.lt
        exact ⟨b :: out, .escaped hhigh hlow hout⟩
      · cases bytes with
        | nil => exact ⟨[], .nil⟩
        | cons b rest =>
            obtain ⟨out, hout⟩ := ih rest.length (Nat.lt_succ_self _) rest rfl
            exact ⟨b :: out, .plain hescape hout⟩

/-- Bytes stand for what they are decoded to, and for nothing else. -/
theorem decodes_iff {bytes out : Bytes} : Decodes bytes out ↔ decode bytes = out := by
  constructor
  · exact decode_of_decodes
  · rintro rfl
    obtain ⟨out, hout⟩ := exists_decodes bytes
    rwa [decode_of_decodes hout]

end BuilderRelay.Percent
