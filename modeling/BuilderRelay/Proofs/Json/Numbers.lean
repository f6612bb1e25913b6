import BuilderRelay.Proofs.Json.Fields

/-!
# Plain numbers and truth values are read back

A plain number ends where a value may end, so unlike a number in quotes it is only read back before
space, a comma, a closing bracket or the end. Its first digit is zero only if it is the whole number.
-/

namespace BuilderRelay.Json

open Utf8

/-! ## Digits as bytes -/

def digitByte (c : Char) : UInt8 := UInt8.ofNat c.toNat

theorem toNat_digitByte {c : Char} (h : c.isDigit) : (digitByte c).toNat = c.toNat := by
  have hrange := Char.isDigit_iff_toNat.mp h
  simp only [Char.reduceToNat] at hrange
  rw [digitByte, UInt8.toNat_ofNat']
  omega

theorem isDigit_digitByte {c : Char} (h : c.isDigit) : isDigit (digitByte c) := by
  have hrange := Char.isDigit_iff_toNat.mp h
  have hvalue := toNat_digitByte h
  simp only [Char.reduceToNat] at hrange
  simp only [isDigit, Bool.and_eq_true, decide_eq_true_eq, UInt8.le_iff_toNat_le, hvalue]
  exact hrange

theorem digitValue_digitByte {c : Char} (h : c.isDigit) :
    digitValue (digitByte c) = c.toNat - '0'.toNat := by
  rw [digitValue, toNat_digitByte h]
  rfl

theorem encodeChars_digits {cs : List Char} (h : ∀ c ∈ cs, c.isDigit) :
    encodeChars cs = cs.map digitByte := by
  induction cs with
  | nil => rfl
  | cons c cs ih =>
      obtain ⟨hc, hcs⟩ := List.forall_mem_cons.mp h
      have hrange := Char.isDigit_iff_toNat.mp hc
      simp only [Char.reduceToNat] at hrange
      rw [encodeChars_cons, encodeChar_of_ascii (by omega), ih hcs]
      rfl

theorem encode_toString (n : Nat) : encode (toString n) = (Nat.toDigits 10 n).map digitByte := by
  rw [encode_eq, Text.toList_toString]
  exact encodeChars_digits fun c hc => Text.isDigit_of_mem_toDigits hc

/-- A first digit that is zero is the only one. -/
theorem eq_nil_of_toDigits_eq_zero_cons {n : Nat} {cs : List Char}
    (h : Nat.toDigits 10 n = '0' :: cs) : cs = [] := by
  induction n using Nat.strongRecOn generalizing cs with
  | ind n ih =>
      by_cases hsmall : n < 10
      · rw [Nat.toDigits_of_lt_base hsmall] at h
        exact (List.cons.inj h).2.symm
      · have hle : 10 ≤ n := Nat.le_of_not_lt hsmall
        rw [Nat.toDigits_of_base_le (by decide) hle] at h
        cases hhigh : Nat.toDigits 10 (n / 10) with
        | nil => exact absurd hhigh Nat.toDigits_ne_nil
        | cons d ds =>
            rw [hhigh, List.cons_append] at h
            obtain ⟨rfl, -⟩ := List.cons.inj h
            have hds : ds = [] := ih (n / 10) (by omega) hhigh
            have hzero : n / 10 = 0 := by
              rw [← Nat.ofDigitChars_ten_toDigits (n := n / 10), hhigh, hds]
              rfl
            omega

theorem absorb_digits {cs : List Char} (hdigits : ∀ c ∈ cs, c.isDigit) {value count : Nat}
    (h : Nat.ofDigitChars 10 cs value ≤ uint64Limit) :
    absorb value count (cs.map digitByte) = (Nat.ofDigitChars 10 cs value, count + cs.length) := by
  induction cs generalizing value count with
  | nil => simp [absorb, Nat.ofDigitChars_nil]
  | cons c cs ih =>
      obtain ⟨hc, hcs⟩ := List.forall_mem_cons.mp hdigits
      rw [Nat.ofDigitChars_cons, Nat.mul_comm 10 value] at h
      have hle := Text.le_ofDigitChars cs (value * 10 + (c.toNat - '0'.toNat))
      rw [List.map_cons, absorb, digitValue_digitByte hc, Nat.ofDigitChars_cons,
        Nat.mul_comm 10 value, List.length_cons]
      simp only [if_pos (Nat.le_trans hle h)]
      rw [ih hcs h]
      simp only [Prod.mk.injEq, true_and]
      omega

/-! ## Plain numbers -/

theorem takeWhile_isDigit {tail : Bytes} (h : EndsDigits tail) : tail.takeWhile isDigit = [] := by
  cases tail with
  | nil => rfl
  | cons b tail => simp [h b rfl]

/-- What stands behind a zero that a number starts with is no digit. -/
theorem not_zero_before_digit {n : Nat} {c : Char} {cs : List Char}
    (h : Nat.toDigits 10 n = c :: cs) {tail : Bytes} (htail : EndsDigits tail) :
    ¬ (digitByte c = 0x30 ∧ (cs.map digitByte ++ tail).head?.any isDigit) := by
  rintro ⟨hzero, hmore⟩
  have hc : c.isDigit := Text.isDigit_of_mem_toDigits (n := n) (by simp [h])
  have hvalue : c.toNat = '0'.toNat := by
    rw [← toNat_digitByte hc, hzero]
    rfl
  obtain rfl := Char.toNat_inj.mp hvalue
  have hnil : cs = [] := eq_nil_of_toDigits_eq_zero_cons h
  rw [hnil, List.map_nil, List.nil_append] at hmore
  obtain ⟨b, hb, hdigit⟩ := (Option.any_eq_true ..).mp hmore
  rw [htail b hb] at hdigit
  cases hdigit

/-- The digits of a number below 2⁶⁴ are read up to the end of the value. -/
theorem readNumber_digits (n : UInt64) {tail : Bytes} (htail : Delimited tail) :
    readNumber false ((Nat.toDigits 10 n.toNat).map digitByte ++ tail) =
      .ok (.unsigned n.toNat, tail) := by
  cases hcs : Nat.toDigits 10 n.toNat with
  | nil => exact absurd hcs Nat.toDigits_ne_nil
  | cons c cs =>
      have hchars : ∀ d ∈ c :: cs, d.isDigit := by
        intro d hd
        exact Text.isDigit_of_mem_toDigits (n := n.toNat) (hcs ▸ hd)
      have hdigits : ∀ b ∈ (c :: cs).map digitByte, isDigit b := by
        intro b hb
        obtain ⟨d, hd, rfl⟩ := List.mem_map.mp hb
        exact isDigit_digitByte (hchars d hd)
      have hvalue : Nat.ofDigitChars 10 (c :: cs) 0 = n.toNat := by
        rw [← hcs, Nat.ofDigitChars_ten_toDigits]
      have htake : ((c :: cs).map digitByte ++ tail).takeWhile isDigit =
          (c :: cs).map digitByte := by
        rw [List.takeWhile_append_of_pos hdigits, takeWhile_isDigit htail.endsDigits,
          List.append_nil]
      have hdrop := dropWhile_digits hdigits htail.endsDigits
      have habsorb : absorb 0 0 ((c :: cs).map digitByte) = (n.toNat, (c :: cs).length) := by
        rw [absorb_digits hchars (hvalue ▸ Nat.le_sub_one_of_lt n.toNat_lt), hvalue, Nat.zero_add]
      have hfirst : isDigit (digitByte c) := isDigit_digitByte (hchars c List.mem_cons_self)
      have hlead := not_zero_before_digit hcs htail.endsDigits
      rw [List.map_cons, List.cons_append] at htake hdrop ⊢
      rw [List.map_cons] at habsorb
      unfold readNumber
      simp only [hfirst, Bool.not_true, Bool.false_eq_true, if_false, if_neg hlead, htake, hdrop,
        habsorb, List.length_cons, List.length_map, Nat.sub_self, if_true]
      cases tail with
      | nil => rfl
      | cons b tail =>
          obtain ⟨-, hpoint, hletter⟩ := htail.plain
          simp only [if_neg hpoint, hletter, Bool.false_eq_true, if_false]
          rfl

theorem reads_uint64 (n : UInt64) : Reads Reader.uint64 (toString n.toNat) n := by
  cases hcs : Nat.toDigits 10 n.toNat with
  | nil => exact absurd hcs Nat.toDigits_ne_nil
  | cons c cs =>
      have hc : c.isDigit := Text.isDigit_of_mem_toDigits (n := n.toNat) (by simp [hcs])
      have hrange := Char.isDigit_iff_toNat.mp hc
      simp only [Char.reduceToNat] at hrange
      have hvalue := toNat_digitByte hc
      have hblank : isBlank (digitByte c) = false := by
        simp [isBlank, ← UInt8.toNat_inj, hvalue]
        omega
      have hminus : digitByte c ≠ 0x2d := by
        intro heq
        have hnat := congrArg UInt8.toNat heq
        rw [hvalue] at hnat
        simp at hnat
        omega
      have hstart : startsValue (digitByte c) := by
        simp [startsValue, hblank, ← UInt8.toNat_inj, hvalue]
        omega
      constructor
      · rw [encode_toString, hcs]
        exact hstart
      · intro tail htail
        have hread := readNumber_digits n htail
        have hle : n.toNat ≤ uint64Limit := Nat.le_sub_one_of_lt n.toNat_lt
        rw [encode_toString]
        rw [hcs, List.map_cons, List.cons_append] at hread ⊢
        simp only [Reader.uint64, Reader.map, Reader.unsigned, Reader.lift, peek_cons hblank,
          bind, Except.bind, if_neg hminus, isDigit_digitByte hc, if_true, hread, if_pos hle,
          UInt64.ofNat_toNat]

/-! ## Truth values and texts -/

theorem reads_boolean (b : Bool) : Reads Reader.boolean (boolean b) b where
  starts := by cases b <;> decide
  reads tail _ := by cases b <;> rfl

end BuilderRelay.Json
