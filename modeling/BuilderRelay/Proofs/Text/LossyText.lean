import BuilderRelay.Proofs.Text.Encoding

/-!
# Texts of ASCII that come out of lossy decoding

What bytes are decoded to with replacements is a text of ASCII only if the bytes are that text: a
sequence of several bytes stands for a character beyond ASCII, and so does what replaces bytes that
are no sequence.
-/

namespace BuilderRelay.Utf8

theorem toNat_range_of_isContinuation {b : UInt8} (h : isContinuation b) :
    0x80 ≤ b.toNat ∧ b.toNat ≤ 0xbf := by
  simp only [isContinuation, Bool.and_eq_true, decide_eq_true_eq, UInt8.le_iff_toNat_le] at h
  exact h

theorem continuation_of_length {wanted : Nat} {rest : Bytes}
    (h : (continuation wanted rest).length = wanted) :
    rest.take wanted = continuation wanted rest ∧
      ∀ b ∈ continuation wanted rest, 0x80 ≤ b.toNat ∧ b.toNat ≤ 0xbf := by
  have hinit : continuation wanted rest <+: rest.take wanted := List.takeWhile_prefix _
  have hle : (rest.take wanted).length ≤ (continuation wanted rest).length := by
    rw [h]
    exact List.length_take_le _ _
  refine ⟨(hinit.eq_of_length_le hle).symm, ?_⟩
  intro b hb
  exact toNat_range_of_isContinuation (List.all_eq_true.mp List.all_takeWhile b hb)

/-- What the second byte of a sequence adds to the bounds that hold for all of its bytes. -/
theorem secondAllowed_range {lead second : UInt8} (h : secondAllowed lead second) :
    (lead.toNat = 0xe0 → 0xa0 ≤ second.toNat) ∧ (lead.toNat = 0xed → second.toNat ≤ 0x9f) ∧
      (lead.toNat = 0xf0 → 0x90 ≤ second.toNat) ∧ (lead.toNat = 0xf4 → second.toNat ≤ 0x8f) := by
  simp only [secondAllowed, beq_iff_eq, ← UInt8.toNat_inj, UInt8.le_iff_toNat_le,
    UInt8.reduceToNat] at h
  grind

/-- How long a sequence is, by its lead byte. -/
theorem sequenceLength_cases (lead : UInt8) :
    (sequenceLength lead = 1 ∧ lead.toNat < 0x80) ∨ sequenceLength lead = 0 ∨
      (sequenceLength lead = 2 ∧ 0xc2 ≤ lead.toNat ∧ lead.toNat ≤ 0xdf) ∨
      (sequenceLength lead = 3 ∧ 0xe0 ≤ lead.toNat ∧ lead.toNat ≤ 0xef) ∨
      (sequenceLength lead = 4 ∧ 0xf0 ≤ lead.toNat ∧ lead.toNat ≤ 0xf4) := by
  simp only [sequenceLength, Bool.and_eq_true, decide_eq_true_eq, UInt8.le_iff_toNat_le,
    UInt8.lt_iff_toNat_lt, UInt8.reduceToNat]
  grind

theorem toNat_ofNat_of_valid {n : Nat} (h : n.isValidChar) : (Char.ofNat n).toNat = n := by
  rw [Char.ofNat, dif_pos h]
  exact UInt32.toNat_ofNatLT ..

theorem sequence_value {lead second : UInt8} {more : Bytes}
    (hlength : sequenceLength lead = more.length + 2) (hsecond : secondAllowed lead second)
    (hrange : ∀ b ∈ second :: more, 0x80 ≤ b.toNat ∧ b.toNat ≤ 0xbf) :
    let value := (second :: more).foldl (fun n b => n * 64 + b.toNat % 64)
      (lead.toNat % Nat.pow 2 (7 - (more.length + 2)))
    0x80 ≤ value ∧ value.isValidChar := by
  obtain ⟨hbounds, hmore⟩ := List.forall_mem_cons.mp hrange
  obtain ⟨he0, hed, hf0, hf4⟩ := secondAllowed_range hsecond
  unfold Nat.isValidChar
  -- A lead byte allows just as many bytes as the sequence has.
  match more with
  | [] =>
      have hlead : 0xc2 ≤ lead.toNat ∧ lead.toNat ≤ 0xdf := by
        have hcases := sequenceLength_cases lead
        simp only [List.length_nil] at hlength
        omega
      simp
      omega
  | [y] =>
      have hy := hmore y (by simp)
      have hlead : 0xe0 ≤ lead.toNat ∧ lead.toNat ≤ 0xef := by
        have hcases := sequenceLength_cases lead
        simp only [List.length_cons, List.length_nil] at hlength
        omega
      simp
      omega
  | [y, z] =>
      have hy := hmore y (by simp)
      have hz := hmore z (by simp)
      have hlead : 0xf0 ≤ lead.toNat ∧ lead.toNat ≤ 0xf4 := by
        have hcases := sequenceLength_cases lead
        simp only [List.length_cons, List.length_nil] at hlength
        omega
      simp
      omega
  | _ :: _ :: _ :: more =>
      have hcases := sequenceLength_cases lead
      simp only [List.length_cons] at hlength
      omega

theorem firstSequence_of_ascii {lead : UInt8} {rest : Bytes} {n : Nat} {c : Char}
    (h : firstSequence lead rest = (n, some c)) (hc : c.toNat < 0x80) :
    n = 1 ∧ c.toNat = lead.toNat := by
  match hl : sequenceLength lead, rest with
  | 0, _ => simp [firstSequence, hl] at h
  | 1, _ =>
      have hcases := sequenceLength_cases lead
      simp only [firstSequence, hl, Prod.mk.injEq, Option.some.injEq] at h
      obtain ⟨rfl, rfl⟩ := h
      exact ⟨rfl, toNat_ofNat_of_valid (.inl (by omega))⟩
  | length + 2, [] => simp [firstSequence, hl] at h
  | length + 2, second :: more =>
      by_cases hsecond : secondAllowed lead second
      · by_cases hwhole : (continuation (length + 1) (second :: more)).length = length + 1
        · obtain ⟨htake, hrange⟩ := continuation_of_length hwhole
          rw [List.take_succ_cons] at htake
          generalize more.take length = tail at htake
          rw [← htake] at hwhole hrange
          obtain rfl : length = tail.length := (Nat.succ.inj hwhole).symm
          obtain ⟨hle, hvalid⟩ := sequence_value hl hsecond hrange
          simp only [firstSequence, hl, hsecond, if_true, Nat.succ_eq_add_one, Nat.add_sub_cancel,
            ← htake, List.length_cons, Prod.mk.injEq, Option.some.injEq] at h
          rw [← h.2, toNat_ofNat_of_valid hvalid] at hc
          omega
        · simp [firstSequence, hl, hsecond, hwhole] at h
      · simp [firstSequence, hl, hsecond] at h

theorem scan_eq_append (skip : Nat) (acc : List (Option Char)) (bytes : Bytes) :
    scan skip acc bytes = acc.reverse ++ scan skip [] bytes := by
  induction bytes generalizing skip acc with
  | nil => simp [scan]
  | cons b rest ih =>
      cases skip with
      | succ skip => exact ih skip acc
      | zero =>
          simp only [scan]
          rw [ih _ (_ :: acc), ih _ [_]]
          simp

theorem encode_of_scan_ascii {bytes : Bytes}
    (h : ∀ c ∈ (scan 0 [] bytes).map (·.getD (Char.ofNat 0xfffd)), c.toNat < 0x80) :
    encodeChars ((scan 0 [] bytes).map (·.getD (Char.ofNat 0xfffd))) = bytes := by
  induction bytes with
  | nil => rfl
  | cons b rest ih =>
      obtain ⟨n, c, hfirst⟩ : ∃ n c, firstSequence b rest = (n, c) := ⟨_, _, rfl⟩
      have hscan : scan 0 [] (b :: rest) = c :: scan (n - 1) [] rest := by
        simp only [scan, hfirst]
        exact scan_eq_append (n - 1) [c] rest
      rw [hscan, List.map_cons] at h ⊢
      obtain ⟨hhead, htail⟩ := List.forall_mem_cons.mp h
      cases c with
      | none => exact absurd hhead (by decide)
      | some c =>
          rw [Option.getD_some] at hhead ⊢
          obtain ⟨rfl, hc⟩ := firstSequence_of_ascii hfirst hhead
          rw [encodeChars_cons, ih htail, encodeChar_of_ascii hhead, hc, UInt8.ofNat_toNat]
          rfl

/-- Bytes that come out as a text of ASCII are the bytes of that text. -/
theorem eq_encode_of_decodeLossy {bytes : Bytes} {s : String} (h : decodeLossy bytes = s)
    (hs : ∀ c ∈ s.toList, c.toNat < 0x80) : bytes = encode s := by
  subst h
  rw [decodeLossy, String.toList_ofList] at hs
  rw [decodeLossy, encode_ofList, encode_of_scan_ascii hs]

end BuilderRelay.Utf8
