import BuilderRelay.Proofs.Json.Grammar
import BuilderRelay.Proofs.Json.Reading

/-!
# What nobody asks for is passed over

Every text of a value is passed over from its beginning to its end, whatever it is nested in and
however deep it nests itself. The text that is left bounds the number of rounds, and each part of a
value leaves enough of them for what follows it.
-/

namespace BuilderRelay.Json

/-! ## Space -/

theorem IsSpace.nil : IsSpace [] := List.forall_mem_nil _

theorem IsSpace.append {w w' : Bytes} (h : IsSpace w) (h' : IsSpace w') : IsSpace (w ++ w') :=
  List.forall_mem_append.mpr ⟨h, h'⟩

theorem skipBlank_append {w : Bytes} (h : IsSpace w) (rest : Bytes) :
    skipBlank (w ++ rest) = skipBlank rest :=
  List.dropWhile_append_of_pos h

/-- Space before a word is passed over. -/
theorem skipBlank_append_cons {w : Bytes} (h : IsSpace w) {b : UInt8} (hb : isBlank b = false)
    (rest : Bytes) : skipBlank (w ++ b :: rest) = b :: rest := by
  rw [skipBlank_append h, skipBlank_cons hb]

theorem Delimited.append {w tail : Bytes} (hw : IsSpace w) (h : Delimited tail) :
    Delimited (w ++ tail) := by
  cases w with
  | nil => exact h
  | cons b w =>
      intro b' hb'
      obtain rfl : b = b' := by simpa using hb'
      exact .inl (hw b List.mem_cons_self)

theorem delimited_closing (bracket : Bracket) (tail : Bytes) :
    Delimited (bracket.closing :: tail) := by
  intro b hb
  obtain rfl : bracket.closing = b := by simpa using hb
  cases bracket with
  | square => exact .inr (.inr (.inl rfl))
  | curly => exact .inr (.inr (.inr rfl))

theorem delimited_comma (tail : Bytes) : Delimited (0x2c :: tail) := by
  intro b hb
  obtain rfl : 0x2c = b := by simpa using hb
  exact .inr (.inl rfl)

/-! ## Strings -/

theorem skipString_body {t : Bytes} (h : IsStringBody t) (rest : Bytes) :
    skipString (t ++ 0x22 :: rest) = .ok rest := by
  induction h with
  | nil =>
      rw [List.nil_append, skipString.eq_def]
      rfl
  | plain hb _ ih =>
      obtain ⟨hquote, hescape, hcontrol⟩ := of_decide_eq_true hb
      rw [List.cons_append, skipString.eq_def]
      simp only [hquote, hescape, hcontrol, if_false]
      exact ih
  | letter he _ ih =>
      obtain ⟨hbyte, hne, -⟩ := escapedByte_of_mem he
      rw [List.cons_append, List.cons_append, skipString.eq_def]
      simp only [hbyte, hne, if_false, if_true]
      exact ih
  | number hu _ ih =>
      obtain ⟨a, b, c, d, rfl, hnumber⟩ := hu.exists_digits
      rw [List.append_assoc, skipString.eq_def]
      simp only [List.cons_append, List.nil_append, hnumber, if_true]
      exact ih

/-! ## Numbers -/

theorem skipExponent_digits {sign t tail : Bytes} (hsign : sign ∈ [[], [0x2b], [0x2d]])
    (ht : IsDigits t) (htail : Delimited tail) : skipExponent (sign ++ (t ++ tail)) = .ok tail := by
  obtain ⟨b, t', rfl⟩ := List.exists_cons_of_ne_nil ht.1
  obtain ⟨hb, ht'⟩ := List.forall_mem_cons.mp ht.2
  have hnosign : ¬ (b = 0x2b ∨ b = 0x2d) := by
    rintro (rfl | rfl)
    · exact absurd hb (by decide)
    · exact absurd hb (by decide)
  have hdrop := dropWhile_digits ht' htail.endsDigits
  simp only [List.mem_cons, List.not_mem_nil, or_false] at hsign
  rcases hsign with rfl | rfl | rfl <;>
    simp [skipExponent, hnosign, hb, hdrop]

theorem skipTail_exponent {exponent tail : Bytes} (h : IsExponent exponent)
    (htail : Delimited tail) : skipTail (exponent ++ tail) = .ok tail := by
  cases h with
  | none =>
      cases tail with
      | nil => rfl
      | cons b tail => simp [skipTail, htail.plain.2.2]
  | digits he hsign ht =>
      rw [List.cons_append, skipTail, if_pos he, List.append_assoc]
      exact skipExponent_digits hsign ht htail

/-- Neither a digit nor a point is behind a number without an exponent. -/
theorem IsExponent.head_plain {exponent tail : Bytes} (h : IsExponent exponent)
    (htail : Delimited tail) : ∀ b ∈ (exponent ++ tail).head?, isDigit b = false ∧ b ≠ 0x2e := by
  intro b hb
  cases h with
  | none =>
      obtain ⟨tail, rfl⟩ := List.head?_eq_some_iff.mp hb
      exact ⟨htail.plain.1, htail.plain.2.1⟩
  | @digits e _ _ he _ _ =>
      obtain rfl : e = b := by simpa using hb
      simp only [isExponentLetter, Bool.or_eq_true, beq_iff_eq] at he
      rcases he with rfl | rfl <;> decide

theorem skipNumber_whole {whole fraction exponent tail : Bytes} (hwhole : IsWhole whole)
    (hfraction : IsFraction fraction) (hexponent : IsExponent exponent) (htail : Delimited tail) :
    skipNumber (whole ++ (fraction ++ (exponent ++ tail))) = .ok tail := by
  obtain ⟨⟨hne, hdigits⟩, hzero⟩ := hwhole
  have hplain := hexponent.head_plain htail
  have hexp : EndsDigits (exponent ++ tail) := fun b hb => (hplain b hb).1
  have htail' := skipTail_exponent hexponent htail
  obtain ⟨b, whole, rfl⟩ := List.exists_cons_of_ne_nil hne
  have hb : isDigit b := hdigits b List.mem_cons_self
  have hrest : EndsDigits (fraction ++ (exponent ++ tail)) := by
    cases hfraction with
    | none => exact hexp
    | digits _ =>
        intro b hb
        obtain rfl : 0x2e = b := by simpa using hb
        decide
  have hlead : ¬ (b = 0x30 ∧ (whole ++ (fraction ++ (exponent ++ tail))).head?.any isDigit) := by
    rintro ⟨rfl, hany⟩
    obtain rfl : whole = [] := by simpa using hzero rfl
    obtain ⟨c, hc, hdigit⟩ := (Option.any_eq_true ..).mp hany
    exact absurd hdigit (by simp [hrest c hc])
  have hdrop := dropWhile_digits hdigits hrest
  rw [List.cons_append] at hdrop ⊢
  unfold skipNumber
  simp only [hb, Bool.not_true, Bool.false_eq_true, if_false, if_neg hlead, hdrop]
  cases hfraction with
  | none =>
      rw [List.nil_append]
      cases hmore : exponent ++ tail with
      | nil =>
          rw [hmore] at htail'
          exact htail'
      | cons c more =>
          rw [hmore] at htail' hplain
          simp only [if_neg (hplain c rfl).2]
          exact htail'
  | @digits t ht =>
      obtain ⟨d, t, rfl⟩ := List.exists_cons_of_ne_nil ht.1
      have hd : isDigit d := ht.2 d List.mem_cons_self
      have hdrop := dropWhile_digits ht.2 hexp
      rw [List.cons_append] at hdrop
      simp only [List.cons_append, if_true, List.head?_cons, Option.any_some, hd, hdrop]
      exact htail'

/-! ## Values without parts -/

theorem readLiteral_append (expected rest : Bytes) :
    readLiteral expected (expected ++ rest) = .ok rest := by
  induction expected with
  | nil => rfl
  | cons e expected ih => simpa [readLiteral] using ih

theorem skipScalar_digit {b : UInt8} (h : isDigit b) (tail : Bytes) :
    isBlank b = false ∧ openingBracket b = none ∧
      skipScalar b tail = some (skipNumber (b :: tail)) := by
  have hne : ∀ c : UInt8, ¬ isDigit c → b ≠ c := by
    rintro c hc rfl
    exact hc h
  refine ⟨?_, ?_, ?_⟩
  · simp [isBlank, hne 0x20 (by decide), hne 0x0a (by decide), hne 0x0d (by decide),
      hne 0x09 (by decide)]
  · simp [openingBracket, hne 0x5b (by decide), hne 0x7b (by decide)]
  · simp [skipScalar, h, hne 0x6e (by decide), hne 0x74 (by decide), hne 0x66 (by decide),
      hne 0x2d (by decide)]

/-- A value without parts is taken for nothing else, and passed over up to its end. -/
theorem skipScalar_of_isScalar {t : Bytes} (h : IsScalar t) :
    ∃ b t', t = b :: t' ∧ isBlank b = false ∧ openingBracket b = none ∧
      ∀ tail, Delimited tail → skipScalar b (t' ++ tail) = some (.ok tail) := by
  cases h with
  | null =>
      refine ⟨_, _, rfl, by decide, by decide, fun tail _ => ?_⟩
      simp [skipScalar, readLiteral_append]
  | true =>
      refine ⟨_, _, rfl, by decide, by decide, fun tail _ => ?_⟩
      simp [skipScalar, readLiteral_append]
  | false =>
      refine ⟨_, _, rfl, by decide, by decide, fun tail _ => ?_⟩
      simp [skipScalar, readLiteral_append]
  | number hnumber =>
      obtain ⟨hsign, hwhole, hfraction, hexponent⟩ := hnumber
      rename_i sign whole fraction exponent
      simp only [List.mem_cons, List.not_mem_nil, or_false] at hsign
      rcases hsign with rfl | rfl
      · obtain ⟨b, whole, rfl⟩ := List.exists_cons_of_ne_nil hwhole.1.1
        have hb : isDigit b := hwhole.1.2 b List.mem_cons_self
        refine ⟨b, _, rfl, (skipScalar_digit hb []).1, (skipScalar_digit hb []).2.1, ?_⟩
        intro tail htail
        have hskip := skipNumber_whole hwhole hfraction hexponent htail
        rw [(skipScalar_digit hb _).2.2, ← hskip]
        simp
      · refine ⟨_, _, rfl, by decide, by decide, fun tail htail => ?_⟩
        simp [skipScalar, skipNumber_whole hwhole hfraction hexponent htail]
  | string hbody =>
      refine ⟨_, _, rfl, by decide, by decide, fun tail _ => ?_⟩
      have hskip := skipString_body hbody tail
      simp [skipScalar, isDigit, hskip]

/-! ## Values with parts -/

theorem openingBracket_opening (bracket : Bracket) :
    isBlank bracket.opening = false ∧ openingBracket bracket.opening = some bracket := by
  cases bracket <;> decide

theorem isBlank_closing (bracket : Bracket) : isBlank bracket.closing = false := by
  cases bracket <;> decide

/-- Whether a value may start with these bytes: what closes a bracket does not. -/
def StartsValue (t : Bytes) : Prop :=
  ∃ b t', t = b :: t' ∧ isBlank b = false ∧ ∀ bracket : Bracket, b ≠ bracket.closing

theorem IsPart.startsValue {t : Bytes} (h : IsPart .value t) : StartsValue t := by
  have hopening : ∀ bracket bracket' : Bracket, bracket.opening ≠ bracket'.closing := by
    intro bracket bracket'
    cases bracket <;> cases bracket' <;> decide
  cases h with
  | scalar hscalar =>
      obtain ⟨b, t', rfl, hblank, -, hskip⟩ := skipScalar_of_isScalar hscalar
      refine ⟨b, t', rfl, hblank, ?_⟩
      rintro bracket rfl
      have hnone : skipScalar bracket.closing (t' ++ []) = none := by cases bracket <;> rfl
      rw [hskip [] delimited_nil] at hnone
      cases hnone
  | empty bracket _ => exact ⟨_, _, rfl, (openingBracket_opening bracket).1, hopening bracket⟩
  | @brackets bracket _ _ =>
      exact ⟨_, _, rfl, (openingBracket_opening bracket).1, hopening bracket⟩

/-- What stands before a value is passed over but for space. -/
theorem IsLead.skipLead_append {bracket : Bracket} {lead : Bytes} (h : IsLead bracket lead)
    (rest : Bytes) :
    ∃ w, IsSpace w ∧ w.length ≤ lead.length ∧ skipLead bracket (lead ++ rest) = .ok (w ++ rest) := by
  cases h with
  | square hw => exact ⟨_, hw, Nat.le_refl _, rfl⟩
  | curly hw hname hw' hw'' =>
      refine ⟨_, hw'', ?_, ?_⟩
      · simp only [List.length_append, List.length_cons]
        omega
      · simp only [skipLead, skipKey, List.append_assoc, List.cons_append]
        rw [skipBlank_append_cons hw (by decide)]
        simp only [ne_eq, not_true_eq_false, if_false, skipString_body hname]
        rw [skipBlank_append_cons hw' (by decide)]
        simp only [if_true]

/-- The first lead between brackets is looked at behind its space. -/
theorem IsLead.skipLead_first {bracket : Bracket} {lead rest : Bytes} (h : IsLead bracket lead)
    (hrest : StartsValue rest) :
    ∃ c more w, skipBlank (lead ++ rest) = c :: more ∧ c ≠ bracket.closing ∧ IsSpace w ∧
      w.length ≤ lead.length ∧ skipLead bracket (c :: more) = .ok (w ++ rest) := by
  cases h with
  | square hw =>
      obtain ⟨b, t, rfl, hblank, hclosing⟩ := hrest
      exact ⟨b, t, [], skipBlank_append_cons hw hblank _, hclosing _, .nil, Nat.zero_le _, rfl⟩
  | curly hw hname hw' hw'' =>
      have hlead := IsLead.curly .nil hname hw' hw''
      obtain ⟨w, hspace, hle, hskip⟩ := hlead.skipLead_append rest
      refine ⟨0x22, _, w, ?_, by decide, hspace, ?_, hskip⟩
      · rw [List.append_assoc]
        exact skipBlank_append_cons hw (by decide) _
      · rw [List.length_append]
        exact Nat.le_add_left_of_le hle

/-- Whether `rest` is passed over up to `tail`, where `enclosing` are open before and `outer` behind
it, and enough rounds are left for the tail. -/
def PassesOver (enclosing outer : List Bracket) (rest tail : Bytes) : Prop :=
  ∀ w fuel, IsSpace w → (w ++ rest).length ≤ fuel.length →
    ∃ fuel', tail.length ≤ fuel'.length ∧
      skipValueIn fuel enclosing (w ++ rest) = skipAfter fuel' outer tail

/-- What is passed over: a value in whatever brackets, and what stands between brackets together
with the closing bracket, but for what stands before the first value there. -/
def Skipped : Part → Bytes → Prop
  | .value, t => ∀ enclosing tail, Delimited tail → PassesOver enclosing enclosing (t ++ tail) tail
  | .inside bracket, t => ∃ lead rest, t = lead ++ rest ∧ IsLead bracket lead ∧ StartsValue rest ∧
      ∀ outer tail, PassesOver (bracket :: outer) outer (rest ++ bracket.closing :: tail) tail

theorem skipped_scalar {t : Bytes} (h : IsScalar t) : Skipped .value t := by
  intro enclosing tail htail w fuel hw hfuel
  obtain ⟨b, t', rfl, hblank, hopening, hskip⟩ := skipScalar_of_isScalar h
  simp only [List.cons_append, List.length_append, List.length_cons] at hfuel ⊢
  cases fuel with
  | nil => simp at hfuel
  | cons f fuel =>
      rw [List.length_cons] at hfuel
      refine ⟨fuel, by omega, ?_⟩
      rw [skipValueIn, skipBlank_append_cons hw hblank]
      simp only [hopening, hskip tail htail]

theorem skipped_empty (bracket : Bracket) {w : Bytes} (h : IsSpace w) :
    Skipped .value (bracket.opening :: (w ++ [bracket.closing])) := by
  intro enclosing tail _ w' fuel hw' hfuel
  obtain ⟨hblank, hopening⟩ := openingBracket_opening bracket
  have hclosing := skipBlank_append_cons h (isBlank_closing bracket) tail
  simp only [List.cons_append, List.append_assoc, List.nil_append, List.length_append,
    List.length_cons] at hfuel ⊢
  cases fuel with
  | nil => simp at hfuel
  | cons f fuel =>
      rw [List.length_cons] at hfuel
      refine ⟨fuel, by omega, ?_⟩
      rw [skipValueIn, skipBlank_append_cons hw' hblank]
      simp only [hopening, hclosing, if_true]

theorem skipped_brackets {bracket : Bracket} {t : Bytes} (h : Skipped (.inside bracket) t) :
    Skipped .value (bracket.opening :: (t ++ [bracket.closing])) := by
  intro enclosing tail _ w fuel hw hfuel
  obtain ⟨lead, rest, rfl, hlead, ⟨b, rest, rfl, hb⟩, hrest⟩ := h
  obtain ⟨hblank, hopening⟩ := openingBracket_opening bracket
  obtain ⟨c, more, w', hfirst, hc, hw', hle, hskip⟩ :=
    hlead.skipLead_first ⟨b, rest ++ bracket.closing :: tail, rfl, hb⟩
  simp only [List.cons_append, List.append_assoc, List.nil_append, List.length_append,
    List.length_cons] at hfuel ⊢
  cases fuel with
  | nil => simp at hfuel
  | cons f fuel =>
      rw [List.length_cons] at hfuel
      rw [skipValueIn, skipBlank_append_cons hw hblank]
      simp only [hopening, hfirst, if_neg hc, hskip]
      apply hrest enclosing tail w' fuel hw'
      simp only [List.cons_append, List.length_append, List.length_cons]
      omega

/-- The bracket that closes behind a value. -/
theorem passesOver_closing {bracket : Bracket} {enclosing outer : List Bracket}
    {rest w tail : Bytes} (hw : IsSpace w)
    (h : PassesOver enclosing (bracket :: outer) rest (w ++ bracket.closing :: tail)) :
    PassesOver enclosing outer rest tail := by
  intro w' fuel hw' hfuel
  obtain ⟨fuel', hle, hskip⟩ := h w' fuel hw' hfuel
  rw [List.length_append, List.length_cons] at hle
  cases fuel' with
  | nil => simp at hle
  | cons f fuel' =>
      rw [List.length_cons] at hle
      refine ⟨fuel', by omega, ?_⟩
      have hcomma : bracket.closing ≠ 0x2c := by cases bracket <;> decide
      rw [hskip, skipAfter, skipBlank_append_cons hw (isBlank_closing bracket)]
      simp only [if_neg hcomma, if_true]

/-- The comma behind a value and what follows it. -/
theorem passesOver_comma {bracket : Bracket} {enclosing outer outer' : List Bracket}
    {rest w lead rest' tail : Bytes} (hw : IsSpace w) (hlead : IsLead bracket lead)
    (h : PassesOver enclosing (bracket :: outer) rest (w ++ 0x2c :: (lead ++ rest')))
    (h' : PassesOver (bracket :: outer) outer' rest' tail) :
    PassesOver enclosing outer' rest tail := by
  intro w' fuel hw' hfuel
  obtain ⟨fuel', hle, hskip⟩ := h w' fuel hw' hfuel
  obtain ⟨w'', hw'', hlength, hlead'⟩ := hlead.skipLead_append rest'
  rw [List.length_append, List.length_cons, List.length_append] at hle
  cases fuel' with
  | nil => simp at hle
  | cons f fuel' =>
      rw [List.length_cons] at hle
      obtain ⟨fuel'', hle', hskip'⟩ := h' w'' fuel' hw'' (by rw [List.length_append]; omega)
      refine ⟨fuel'', hle', ?_⟩
      rw [hskip, ← hskip', skipAfter, skipBlank_append_cons hw (by decide)]
      simp only [if_true, hlead']

theorem startsValue_append {t : Bytes} (h : StartsValue t) (tail : Bytes) :
    StartsValue (t ++ tail) := by
  obtain ⟨b, t, rfl, hb⟩ := h
  exact ⟨b, t ++ tail, rfl, hb⟩

theorem skipped_last {bracket : Bracket} {lead t w : Bytes} (hlead : IsLead bracket lead)
    (ht : StartsValue t) (h : Skipped .value t) (hw : IsSpace w) :
    Skipped (.inside bracket) (lead ++ (t ++ w)) := by
  refine ⟨lead, t ++ w, rfl, hlead, startsValue_append ht w, fun outer tail => ?_⟩
  have hend : Delimited (w ++ bracket.closing :: tail) := .append hw (delimited_closing bracket tail)
  rw [List.append_assoc]
  exact passesOver_closing hw (h (bracket :: outer) _ hend)

theorem skipped_more {bracket : Bracket} {lead t w ts : Bytes} (hlead : IsLead bracket lead)
    (ht : StartsValue t) (h : Skipped .value t) (hw : IsSpace w)
    (hts : Skipped (.inside bracket) ts) :
    Skipped (.inside bracket) (lead ++ (t ++ (w ++ 0x2c :: ts))) := by
  obtain ⟨lead', rest, rfl, hlead', -, hrest⟩ := hts
  refine ⟨lead, _, rfl, hlead, startsValue_append ht _, fun outer tail => ?_⟩
  have hend : Delimited (w ++ 0x2c :: (lead' ++ (rest ++ bracket.closing :: tail))) :=
    .append hw (delimited_comma _)
  have hfirst := h (bracket :: outer) _ hend
  have hlater := passesOver_comma hw hlead' hfirst (hrest outer tail)
  simpa only [List.append_assoc, List.cons_append] using hlater

/-- Every part of a value is passed over. -/
theorem skipped_of_isPart {part : Part} {t : Bytes} (h : IsPart part t) : Skipped part t := by
  induction h with
  | scalar h => exact skipped_scalar h
  | empty bracket hw => exact skipped_empty bracket hw
  | brackets _ ih => exact skipped_brackets ih
  | last hlead ht hw ih => exact skipped_last hlead ht.startsValue ih hw
  | more hlead ht hw _ ih ih' => exact skipped_more hlead ht.startsValue ih hw ih'

/-- A value is passed over to its end, and no further. -/
theorem skipValue_value {w t tail : Bytes} (hw : IsSpace w) (ht : IsValue t)
    (htail : Delimited tail) : skipValue (w ++ (t ++ tail)) = .ok tail := by
  obtain ⟨fuel, -, hskip⟩ :=
    skipped_of_isPart ht [] tail htail w (w ++ (t ++ tail)) hw (Nat.le_refl _)
  rw [skipValue, hskip, skipAfter]

end BuilderRelay.Json
