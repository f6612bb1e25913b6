import BuilderRelay.Network
import BuilderRelay.Proofs.Text.Numerals

/-!
# Prefixed hexadecimal texts

A text is accepted if it is a prefix and at least one pair of digits, in either case; the bytes it
stands for are told by the places of the digits in the alphabet. The lower-case form of the bytes is
the text in lower case, so it is read back. What is rejected is blamed on the first cause that
applies, in the order of `Fault.rank`. Fork versions are the texts of eight digits.
-/

namespace BuilderRelay.Hex

/-! ## Digits -/

/-- The digits in lower case, each at the place of its value. -/
def alphabet : List Char := "0123456789abcdef".toList

/-- A digit of value `n`, in either case. -/
def IsDigit (n : Nat) (c : Char) : Prop := alphabet.idxOf? c.toLower = some n

instance (n : Nat) (c : Char) : Decidable (IsDigit n c) :=
  inferInstanceAs (Decidable (_ = _))

/-- What is true of 128 characters and of all others is true of every character. -/
theorem forall_char {p : Char → Prop} (h : ∀ n < 128, p (Char.ofNat n))
    (hother : ∀ c : Char, ¬ c.toNat < 128 → p c) (c : Char) : p c := by
  by_cases hc : c.toNat < 128
  · have hp := h c.toNat hc
    rwa [Char.ofNat_toNat] at hp
  · exact hother c hc

theorem value_of_not_ascii {c : Char} (h : ¬ c.toNat < 128) : value c = none := by
  have hrange (top bottom : Char) (htop : top.toNat < 128) : ¬ (bottom ≤ c ∧ c ≤ top) := by
    rintro ⟨-, hle⟩
    have hnat : c.toNat ≤ top.toNat := hle
    omega
  rw [value, if_neg (hrange _ _ (by decide)), if_neg (hrange _ _ (by decide)),
    if_neg (hrange _ _ (by decide))]

theorem toLower_of_not_ascii {c : Char} (h : ¬ c.toNat < 128) : c.toLower = c := by
  refine dif_neg ?_
  rintro ⟨-, hle⟩
  have hnat : c.toNat ≤ 'Z'.toNat := hle
  have htop : 'Z'.toNat < 128 := by decide
  omega

theorem value_eq (c : Char) : value c = alphabet.idxOf? c.toLower := by
  revert c
  refine forall_char (by decide) fun c hc => ?_
  rw [value_of_not_ascii hc, toLower_of_not_ascii hc, eq_comm, List.idxOf?_eq_none_iff]
  intro hmem
  have hascii : alphabet.all (·.toNat < 128) := by decide
  exact hc (by simpa using List.all_eq_true.mp hascii c hmem)

theorem isDigit_iff {n : Nat} {c : Char} : IsDigit n c ↔ n < 16 ∧ c.toLower = digit n := by
  have hplace : ∀ n < 16, alphabet.idxOf? (digit n) = some n ∧ alphabet[n]? = some (digit n) := by
    decide
  constructor
  · intro h
    obtain ⟨hlt, hc, -⟩ := List.idxOf?_eq_some_iff.mp h
    have hn : n < 16 := hlt
    refine ⟨hn, ?_⟩
    rw [← hc, ← Option.some.injEq, ← List.getElem?_eq_getElem hlt, (hplace n hn).2]
  · rintro ⟨hn, hc⟩
    rw [IsDigit, hc, (hplace n hn).1]

theorem isSome_value_iff {c : Char} : (value c).isSome ↔ ∃ n, IsDigit n c := by
  rw [value_eq, Option.isSome_iff_exists]
  rfl

/-! ## Pairs of digits -/

/-- Digits by twos, and the bytes they stand for. -/
inductive Pairs : List Char → Bytes → Prop
  | nil : Pairs [] []
  | cons {high low : Char} {ds : List Char} {b : UInt8} {bytes : Bytes} :
      IsDigit (b.toNat / 16) high → IsDigit (b.toNat % 16) low → Pairs ds bytes →
      Pairs (high :: low :: ds) (b :: bytes)

theorem digits_cons (b : UInt8) (bytes : Bytes) :
    digits (b :: bytes) = digit (b.toNat / 16) :: digit (b.toNat % 16) :: digits bytes := by
  simp only [digits, List.flatMap_cons, List.cons_append, List.nil_append]

/-- Digits stand for bytes whose own digits they are, but for the case. -/
theorem pairs_iff {ds : List Char} {bytes : Bytes} :
    Pairs ds bytes ↔ ds.map Char.toLower = digits bytes := by
  constructor
  · intro h
    induction h with
    | nil => rfl
    | cons hhigh hlow _ ih =>
        rw [digits_cons, List.map_cons, List.map_cons, ih, (isDigit_iff.mp hhigh).2,
          (isDigit_iff.mp hlow).2]
  · intro h
    induction bytes generalizing ds with
    | nil =>
        rw [List.map_eq_nil_iff.mp h]
        exact .nil
    | cons b bytes ih =>
        have hb := b.toNat_lt
        rw [digits_cons] at h
        obtain ⟨high, ds, rfl, hhigh, h⟩ := List.map_eq_cons_iff.mp h
        obtain ⟨low, ds, rfl, hlow, h⟩ := List.map_eq_cons_iff.mp h
        exact .cons (isDigit_iff.mpr ⟨by omega, hhigh⟩) (isDigit_iff.mpr ⟨by omega, hlow⟩) (ih h)

theorem Pairs.length_eq {ds : List Char} {bytes : Bytes} (h : Pairs ds bytes) :
    ds.length = 2 * bytes.length := by
  induction h with
  | nil => rfl
  | cons _ _ _ ih =>
      simp only [List.length_cons, ih]
      omega

theorem Pairs.isDigit {ds : List Char} {bytes : Bytes} (h : Pairs ds bytes) :
    ∀ c ∈ ds, ∃ n, IsDigit n c := by
  induction h with
  | nil => simp
  | cons hhigh hlow _ ih =>
      simp only [List.forall_mem_cons]
      exact ⟨⟨_, hhigh⟩, ⟨_, hlow⟩, ih⟩

theorem exists_byte {n m : Nat} (hn : n < 16) (hm : m < 16) :
    ∃ b : UInt8, b.toNat / 16 = n ∧ b.toNat % 16 = m := by
  have hbyte : (UInt8.ofNat (n * 16 + m)).toNat = n * 16 + m := by
    rw [UInt8.toNat_ofNat']
    omega
  refine ⟨UInt8.ofNat (n * 16 + m), ?_, ?_⟩
  · rw [hbyte]
    omega
  · rw [hbyte]
    omega

theorem exists_pairs {ds : List Char} (heven : 2 ∣ ds.length) (h : ∀ c ∈ ds, ∃ n, IsDigit n c) :
    ∃ bytes, Pairs ds bytes := by
  match ds with
  | [] => exact ⟨[], .nil⟩
  | [_] => simp at heven
  | high :: low :: rest =>
      simp only [List.forall_mem_cons] at h
      obtain ⟨⟨n, hhigh⟩, ⟨m, hlow⟩, hrest⟩ := h
      have hevenRest : 2 ∣ rest.length := by
        simp only [List.length_cons] at heven
        omega
      obtain ⟨bytes, hbytes⟩ := exists_pairs hevenRest hrest
      obtain ⟨b, rfl, rfl⟩ := exists_byte (isDigit_iff.mp hhigh).1 (isDigit_iff.mp hlow).1
      exact ⟨b :: bytes, .cons hhigh hlow hbytes⟩

theorem decodeDigits_of_pairs {ds : List Char} {bytes : Bytes} (h : Pairs ds bytes) :
    decodeDigits ds = some bytes := by
  induction h with
  | nil => rfl
  | cons hhigh hlow _ ih =>
      rw [IsDigit, ← value_eq] at hhigh hlow
      simp only [decodeDigits, hhigh, hlow, ih, bind, Option.bind, pure, Nat.div_add_mod',
        UInt8.ofNat_toNat]

theorem length_of_decodeDigits {ds : List Char} {bytes : Bytes} (h : decodeDigits ds = some bytes) :
    ds.length = 2 * bytes.length := by
  fun_induction decodeDigits ds generalizing bytes with
  | case1 =>
      cases h
      rfl
  | case2 => cases h
  | case3 high low rest ih =>
      obtain ⟨_, -, h⟩ := Option.bind_eq_some_iff.mp h
      obtain ⟨_, -, h⟩ := Option.bind_eq_some_iff.mp h
      obtain ⟨tail, htail, h⟩ := Option.bind_eq_some_iff.mp h
      cases h
      rw [List.length_cons, List.length_cons, List.length_cons, ih htail]
      omega

/-- Digits are decoded to what they stand for, unless their number is odd. -/
theorem decodeDigits_cases {ds : List Char} (h : ∀ c ∈ ds, ∃ n, IsDigit n c) :
    (∃ bytes, decodeDigits ds = some bytes ∧ Pairs ds bytes) ∨
      decodeDigits ds = none ∧ ¬ 2 ∣ ds.length := by
  by_cases heven : 2 ∣ ds.length
  · obtain ⟨bytes, hbytes⟩ := exists_pairs heven h
    exact .inl ⟨bytes, decodeDigits_of_pairs hbytes, hbytes⟩
  · right
    refine ⟨?_, heven⟩
    cases hdecode : decodeDigits ds with
    | none => rfl
    | some bytes => exact absurd ⟨_, length_of_decodeDigits hdecode⟩ heven

/-! ## Texts -/

/-- The text is a prefix and what follows it. -/
def Marked (text : String) (ds : List Char) : Prop :=
  text.toList = '0' :: 'x' :: ds ∨ text.toList = '0' :: 'X' :: ds

structure Prefixed (text : String) (ds : List Char) : Prop where
  marked : Marked text ds
  nonempty : ds ≠ []
  even : 2 ∣ ds.length
  digits : ∀ c ∈ ds, ∃ n, IsDigit n c

/-- The text is a prefix and digits that stand for the bytes, of which there is at least one. -/
def Denotes (text : String) (bytes : Bytes) : Prop :=
  ∃ ds, Marked text ds ∧ ds ≠ [] ∧ Pairs ds bytes

/-- What is wrong with a text. More than one of these may be. -/
def Fault.Applies (text : String) : Fault → Prop
  | .empty => text = ""
  | .noPrefix => ∀ ds, ¬ Marked text ds
  | .noDigits => Marked text []
  | .badCharacter c => ∃ before after, Marked text (before ++ c :: after) ∧
      (∀ d ∈ before, ∃ n, IsDigit n d) ∧ ∀ n, ¬ IsDigit n c
  | .oddLength => ∃ ds, Marked text ds ∧ ¬ 2 ∣ ds.length

def Fault.rank : Fault → Nat
  | .empty => 0
  | .noPrefix => 1
  | .noDigits => 2
  | .badCharacter _ => 3
  | .oddLength => 4

/-- The fault applies, and none before it does. -/
structure Fault.First (fault : Fault) (text : String) : Prop where
  applies : fault.Applies text
  earliest : ∀ other : Fault, other.rank < fault.rank → ¬ other.Applies text

theorem Marked.unique {text : String} {ds ds' : List Char} (h : Marked text ds)
    (h' : Marked text ds') : ds = ds' := by
  rcases h with h | h <;> rcases h' with h' | h' <;> simp_all

theorem Marked.ne_empty {text : String} {ds : List Char} (h : Marked text ds) : text ≠ "" := by
  rintro rfl
  rcases h with h | h <;> cases h

theorem stripPrefix_eq_some_iff {text : String} {ds : List Char} :
    stripPrefix text.toList = some ds ↔ Marked text ds := by
  constructor
  · intro h
    unfold stripPrefix at h
    split at h
    · rename_i rest htext
      cases h
      exact .inl htext
    · rename_i rest htext
      cases h
      exact .inr htext
    · cases h
  · rintro (h | h) <;> rw [h] <;> rfl

theorem find?_badCharacter_iff {ds : List Char} {c : Char} :
    ds.find? (fun c => (value c).isNone) = some c ↔ ∃ before after, ds = before ++ c :: after ∧
      (∀ d ∈ before, ∃ n, IsDigit n d) ∧ ∀ n, ¬ IsDigit n c := by
  simp only [List.find?_eq_some_iff_append, ← isSome_value_iff, ← not_exists,
    Bool.not_eq_true', Option.isNone_eq_false_iff, Bool.not_eq_true, Option.isSome_eq_false_iff]
  constructor
  · rintro ⟨hc, before, after, hds, hbefore⟩
    exact ⟨before, after, hds, hbefore, hc⟩
  · rintro ⟨before, after, hds, hbefore, hc⟩
    exact ⟨hc, before, after, hds, hbefore⟩

theorem applies_badCharacter_iff {text : String} {c : Char} :
    (Fault.badCharacter c).Applies text ↔
      ∃ ds, Marked text ds ∧ ds.find? (fun c => (value c).isNone) = some c := by
  simp only [Fault.Applies, find?_badCharacter_iff]
  constructor
  · rintro ⟨before, after, hmarked, hfirst⟩
    exact ⟨_, hmarked, before, after, rfl, hfirst⟩
  · rintro ⟨_, hmarked, before, after, rfl, hfirst⟩
    exact ⟨before, after, hmarked, hfirst⟩

theorem decodePrefixed_of_marked {text : String} {ds : List Char} (h : Marked text ds)
    (hne : ds ≠ []) :
    decodePrefixed text =
      match ds.find? fun c => (value c).isNone with
      | some bad => .error (.badCharacter bad)
      | none =>
          match decodeDigits ds with
          | some bytes => .ok bytes
          | none => .error .oddLength := by
  have htext : text.toList ≠ [] := by
    rcases h with h | h <;> rw [h] <;> simp
  obtain ⟨c, rest, rfl⟩ := List.exists_cons_of_ne_nil hne
  rewrite [decodePrefixed, if_neg htext, stripPrefix_eq_some_iff.mpr h]
  rfl

/-- What follows a prefix is at fault for a character at the earliest. -/
theorem not_applies_before_characters {text : String} {ds : List Char} (h : Marked text ds)
    (hne : ds ≠ []) {fault : Fault} (hrank : fault.rank < 3) : ¬ fault.Applies text := by
  cases fault with
  | empty => exact h.ne_empty
  | noPrefix => exact fun hprefix => hprefix ds h
  | noDigits => exact fun hnone => hne (h.unique hnone)
  | badCharacter | oddLength => exact absurd hrank (by simp [Fault.rank])

theorem decodePrefixed_cases_of_marked {text : String} {ds : List Char} (h : Marked text ds)
    (hne : ds ≠ []) :
    (∃ bytes, decodePrefixed text = .ok bytes ∧ Denotes text bytes) ∨
      ∃ fault, decodePrefixed text = .error fault ∧ fault.First text := by
  rw [decodePrefixed_of_marked h hne]
  cases hfind : ds.find? fun c => (value c).isNone with
  | some bad =>
      right
      refine ⟨.badCharacter bad, rfl, applies_badCharacter_iff.mpr ⟨ds, h, hfind⟩, ?_⟩
      exact fun other => not_applies_before_characters h hne
  | none =>
      have hall : ∀ c ∈ ds, ∃ n, IsDigit n c := by
        intro c hc
        rw [← isSome_value_iff]
        simpa [Option.isSome_iff_ne_none] using List.find?_eq_none.mp hfind c hc
      rcases decodeDigits_cases hall with ⟨bytes, hdecode, hpairs⟩ | ⟨hdecode, hodd⟩
      · left
        simp only [hdecode]
        exact ⟨bytes, rfl, ds, h, hne, hpairs⟩
      · right
        simp only [hdecode]
        refine ⟨.oddLength, rfl, ⟨ds, h, hodd⟩, ?_⟩
        intro other hrank
        by_cases hearlier : other.rank < 3
        · exact not_applies_before_characters h hne hearlier
        · cases other with
          | badCharacter c =>
              rw [applies_badCharacter_iff]
              rintro ⟨ds', hds', hbad⟩
              rw [h.unique hds', hbad] at hfind
              cases hfind
          | oddLength => exact absurd hrank (Nat.lt_irrefl _)
          | empty | noPrefix | noDigits => exact absurd (by simp [Fault.rank]) hearlier

/-- A text is decoded to what it denotes, or there is a first fault. -/
theorem decodePrefixed_cases (text : String) :
    (∃ bytes, decodePrefixed text = .ok bytes ∧ Denotes text bytes) ∨
      ∃ fault, decodePrefixed text = .error fault ∧ fault.First text := by
  by_cases hempty : text = ""
  · subst hempty
    refine .inr ⟨.empty, rfl, rfl, ?_⟩
    intro other hrank
    exact absurd hrank (Nat.not_lt_zero _)
  have htext : text.toList ≠ [] := by simpa using hempty
  cases hstrip : stripPrefix text.toList with
  | none =>
      have hprefix : ∀ ds, ¬ Marked text ds := by
        intro ds hds
        rw [stripPrefix_eq_some_iff.mpr hds] at hstrip
        cases hstrip
      refine .inr ⟨.noPrefix, by rw [decodePrefixed, if_neg htext, hstrip], hprefix, ?_⟩
      intro other hrank
      cases other with
      | empty => exact hempty
      | noPrefix | noDigits | badCharacter | oddLength => exact absurd hrank (by simp [Fault.rank])
  | some ds =>
      have hmarked := stripPrefix_eq_some_iff.mp hstrip
      by_cases hne : ds = []
      · subst hne
        refine .inr ⟨.noDigits, by rw [decodePrefixed, if_neg htext, hstrip], hmarked, ?_⟩
        intro other hrank
        cases other with
        | empty => exact hempty
        | noPrefix => exact fun hprefix => hprefix [] hmarked
        | noDigits | badCharacter | oddLength => exact absurd hrank (by simp [Fault.rank])
      · exact decodePrefixed_cases_of_marked hmarked hne

theorem Denotes.not_applies {text : String} {bytes : Bytes} (h : Denotes text bytes)
    (fault : Fault) : ¬ fault.Applies text := by
  obtain ⟨ds, hds, hne, hpairs⟩ := h
  cases fault with
  | empty => exact hds.ne_empty
  | noPrefix => exact fun hprefix => hprefix ds hds
  | noDigits => exact fun hnone => hne (hds.unique hnone)
  | badCharacter c =>
      rintro ⟨before, after, hmarked, -, hc⟩
      obtain ⟨n, hn⟩ := hpairs.isDigit c (by rw [hds.unique hmarked]; simp)
      exact hc n hn
  | oddLength =>
      rintro ⟨ds', hds', hodd⟩
      rw [← hds.unique hds', hpairs.length_eq] at hodd
      exact hodd ⟨_, rfl⟩

theorem Denotes.unique {text : String} {bytes bytes' : Bytes} (h : Denotes text bytes)
    (h' : Denotes text bytes') : bytes = bytes' := by
  obtain ⟨ds, hds, -, hpairs⟩ := h
  obtain ⟨ds', hds', -, hpairs'⟩ := h'
  rw [← hds.unique hds'] at hpairs'
  have hdecode := decodeDigits_of_pairs hpairs
  rw [decodeDigits_of_pairs hpairs'] at hdecode
  exact (Option.some.inj hdecode).symm

theorem Fault.First.unique {text : String} {f g : Fault} (hf : f.First text) (hg : g.First text) :
    f = g := by
  have hrank : f.rank = g.rank := by
    rcases Nat.lt_trichotomy f.rank g.rank with hlt | heq | hlt
    · exact absurd hf.applies (hg.earliest f hlt)
    · exact heq
    · exact absurd hg.applies (hf.earliest g hlt)
  -- Only the causes that name a character share their place in the order.
  cases f <;> cases g <;> simp only [Fault.rank, reduceCtorEq] at hrank ⊢ <;> try omega
  rename_i c d
  obtain ⟨ds, hds, hc⟩ := applies_badCharacter_iff.mp hf.applies
  obtain ⟨ds', hds', hd⟩ := applies_badCharacter_iff.mp hg.applies
  rw [← hds.unique hds', hc] at hd
  rw [Option.some.inj hd]

theorem decodePrefixed_eq_ok_iff {text : String} {bytes : Bytes} :
    decodePrefixed text = .ok bytes ↔ Denotes text bytes := by
  rcases decodePrefixed_cases text with ⟨bytes', hok, hdenotes⟩ | ⟨fault, herror, hfirst⟩
  · rw [hok, Except.ok.injEq]
    constructor
    · rintro rfl
      exact hdenotes
    · exact hdenotes.unique
  · rw [herror]
    constructor
    · intro h
      cases h
    · intro hdenotes
      exact absurd hfirst.applies (hdenotes.not_applies fault)

theorem decodePrefixed_eq_error_iff {text : String} {fault : Fault} :
    decodePrefixed text = .error fault ↔ fault.First text := by
  rcases decodePrefixed_cases text with ⟨bytes, hok, hdenotes⟩ | ⟨other, herror, hother⟩
  · rw [hok]
    constructor
    · intro h
      cases h
    · intro hfirst
      exact absurd hfirst.applies (hdenotes.not_applies fault)
  · rw [herror, Except.error.injEq]
    constructor
    · rintro rfl
      exact hother
    · exact hother.unique

theorem exists_denotes_iff {text : String} :
    (∃ bytes, Denotes text bytes) ↔ ∃ ds, Prefixed text ds := by
  constructor
  · rintro ⟨bytes, ds, hds, hne, hpairs⟩
    exact ⟨ds, hds, hne, ⟨_, hpairs.length_eq⟩, hpairs.isDigit⟩
  · rintro ⟨ds, hds, hne, heven, hdigits⟩
    obtain ⟨bytes, hpairs⟩ := exists_pairs heven hdigits
    exact ⟨bytes, ds, hds, hne, hpairs⟩

/-! ## Lower case -/

theorem toLower_eq_zero_iff (c : Char) : c.toLower = '0' ↔ c = '0' := by
  revert c
  refine forall_char (by decide) fun c hc => ?_
  rw [toLower_of_not_ascii hc]

theorem toLower_eq_x_iff (c : Char) : c.toLower = 'x' ↔ c = 'x' ∨ c = 'X' := by
  revert c
  refine forall_char (by decide) fun c hc => ?_
  rw [toLower_of_not_ascii hc, or_iff_left]
  rintro rfl
  exact hc (by decide)

theorem toList_asciiLower (text : String) :
    (Text.asciiLower text).toList = text.toList.map Char.toLower := by
  rw [Text.asciiLower, String.toList_ofList]

/-- A text denotes bytes if it is, in lower case, what is written of them. -/
theorem denotes_iff_asciiLower {text : String} {bytes : Bytes} :
    Denotes text bytes ↔ bytes ≠ [] ∧ Text.asciiLower text = encodePrefixed bytes := by
  rw [← String.toList_inj, toList_asciiLower, toList_encodePrefixed]
  constructor
  · rintro ⟨ds, hds, hne, hpairs⟩
    constructor
    · rintro rfl
      cases hpairs
      exact hne rfl
    · rw [← pairs_iff.mp hpairs]
      rcases hds with hds | hds <;> rw [hds] <;> rfl
  · rintro ⟨hne, htext⟩
    obtain ⟨zero, rest, hrest, hzero, htext⟩ := List.map_eq_cons_iff.mp htext
    obtain ⟨mark, ds, rfl, hmark, hdigits⟩ := List.map_eq_cons_iff.mp htext
    rw [toLower_eq_zero_iff] at hzero
    rw [toLower_eq_x_iff] at hmark
    refine ⟨ds, ?_, ?_, pairs_iff.mpr hdigits⟩
    · rcases hmark with rfl | rfl
      · exact .inl (hrest.trans (by rw [hzero]))
      · exact .inr (hrest.trans (by rw [hzero]))
    · rintro rfl
      obtain ⟨b, bytes, rfl⟩ := List.exists_cons_of_ne_nil hne
      rw [digits_cons] at hdigits
      cases hdigits

theorem asciiLower_encodePrefixed (bytes : Bytes) :
    Text.asciiLower (encodePrefixed bytes) = encodePrefixed bytes := by
  have hdigit : ∀ n < 16, (digit n).toLower = digit n := by decide
  rw [← String.toList_inj, toList_asciiLower, toList_encodePrefixed, List.map_cons, List.map_cons]
  have hdigits : (digits bytes).map Char.toLower = digits bytes := by
    induction bytes with
    | nil => rfl
    | cons b bytes ih =>
        have hb := b.toNat_lt
        rw [digits_cons, List.map_cons, List.map_cons, ih, hdigit _ (by omega), hdigit _ (by omega)]
  rw [hdigits]
  rfl

theorem decodePrefixed_encodePrefixed {bytes : Bytes} (h : bytes ≠ []) :
    decodePrefixed (encodePrefixed bytes) = .ok bytes :=
  decodePrefixed_eq_ok_iff.mpr (denotes_iff_asciiLower.mpr ⟨h, asciiLower_encodePrefixed bytes⟩)

theorem encodePrefixed_of_decodePrefixed {text : String} {ds : List Char} {bytes : Bytes}
    (h : Marked text ds) (hdecode : decodePrefixed text = .ok bytes) :
    encodePrefixed bytes = "0x" ++ Text.asciiLower (.ofList ds) := by
  obtain ⟨ds', hds', -, hpairs⟩ := decodePrefixed_eq_ok_iff.mp hdecode
  rw [← h.unique hds'] at hpairs
  rw [← String.toList_inj, toList_encodePrefixed, ← pairs_iff.mp hpairs, String.toList_append,
    toList_asciiLower, String.toList_ofList]
  simp

/-- The letter of a second prefix is no digit. -/
theorem first_of_doubled {text : String} {c : Char} {ds : List Char}
    (h : Marked text ('0' :: c :: ds)) (hc : c = 'x' ∨ c = 'X') :
    (Fault.badCharacter c).First text where
  applies := by
    refine ⟨['0'], ds, h, ?_, ?_⟩
    · intro d hd
      rw [List.mem_singleton.mp hd]
      exact ⟨0, by decide⟩
    · intro n hn
      have hsome : (value c).isSome := isSome_value_iff.mpr ⟨n, hn⟩
      rcases hc with rfl | rfl <;> exact absurd hsome (by decide)
  earliest other := not_applies_before_characters h (by simp)

end BuilderRelay.Hex

namespace BuilderRelay

open Hex (Marked Prefixed Denotes)

/-! ## Fork versions -/

namespace ForkVersion

theorem read_eq_ok_iff {text : String} {v : ForkVersion} :
    read text = .ok v ↔ Denotes text v.bytes.toList := by
  unfold read
  cases hdecode : Hex.decodePrefixed text with
  | error fault =>
      constructor
      · intro h
        cases h
      · intro hdenotes
        rw [Hex.decodePrefixed_eq_ok_iff.mpr hdenotes] at hdecode
        cases hdecode
  | ok bytes =>
      have hbytes := Hex.decodePrefixed_eq_ok_iff.mp hdecode
      constructor
      · intro h
        simp only at h
        split at h
        · rename_i version hversion
          cases h
          rwa [ByteVector.toList_of_ofBytes? hversion]
        · cases h
      · intro hdenotes
        rw [hbytes.unique hdenotes]
        simp only [ByteVector.ofBytes?_toList]

theorem bytes_ne_nil (v : ForkVersion) : v.bytes.toList ≠ [] := by
  intro h
  have hlength := congrArg List.length h
  simp at hlength

theorem exists_read_eq_ok_iff {text : String} :
    (∃ v, read text = .ok v) ↔ ∃ ds, Prefixed text ds ∧ ds.length = 8 := by
  simp only [read_eq_ok_iff]
  constructor
  · rintro ⟨v, ds, hds, hne, hpairs⟩
    have hlength := hpairs.length_eq
    rw [Vector.length_toList] at hlength
    exact ⟨ds, ⟨hds, hne, ⟨_, hpairs.length_eq⟩, hpairs.isDigit⟩, hlength⟩
  · rintro ⟨ds, ⟨hds, hne, heven, hdigits⟩, hlength⟩
    obtain ⟨bytes, hpairs⟩ := Hex.exists_pairs heven hdigits
    have hbytes : bytes.length = 4 := by
      have hpairsLength := hpairs.length_eq
      omega
    refine ⟨⟨⟨bytes.toArray, by simpa using hbytes⟩⟩, ds, hds, hne, ?_⟩
    simpa [Vector.toList] using hpairs

theorem text_of_read {text : String} {v : ForkVersion} (h : read text = .ok v) :
    v.text = Text.asciiLower text :=
  (Hex.denotes_iff_asciiLower.mp (read_eq_ok_iff.mp h)).2.symm

theorem read_text (v : ForkVersion) : read v.text = .ok v :=
  read_eq_ok_iff.mpr
    (Hex.denotes_iff_asciiLower.mpr ⟨v.bytes_ne_nil, Hex.asciiLower_encodePrefixed _⟩)

end ForkVersion

/-! ## Reading and writing -/

/-- Which texts are accepted, what they stand for and how they are written again, and which cause is
reported for the others; the same for fork versions. -/
theorem prefixed_hex_exact :
    (∀ text, (∃ bytes, Hex.decodePrefixed text = .ok bytes) ↔ ∃ ds, Prefixed text ds) ∧
    (∀ text bytes, Hex.decodePrefixed text = .ok bytes ↔ Denotes text bytes) ∧
    (∀ text ds bytes, Marked text ds → Hex.decodePrefixed text = .ok bytes →
      Hex.encodePrefixed bytes = "0x" ++ Text.asciiLower (.ofList ds)) ∧
    (∀ bytes, bytes ≠ [] → Hex.decodePrefixed (Hex.encodePrefixed bytes) = .ok bytes) ∧
    (∀ text fault, Hex.decodePrefixed text = .error fault ↔ fault.First text) ∧
    (∀ text c ds, Marked text ('0' :: c :: ds) → c = 'x' ∨ c = 'X' →
      Hex.decodePrefixed text = .error (.badCharacter c)) ∧
    (∀ text, (∃ v, ForkVersion.read text = .ok v) ↔ ∃ ds, Prefixed text ds ∧ ds.length = 8) ∧
    (∀ v : ForkVersion, ForkVersion.read v.text = .ok v) ∧
    (∀ text v, ForkVersion.read text = .ok v → v.text = Text.asciiLower text) := by
  refine ⟨?_, ?_, ?_, ?_, ?_, ?_, ?_, ?_, ?_⟩
  · intro text
    simp only [Hex.decodePrefixed_eq_ok_iff, Hex.exists_denotes_iff]
  · exact fun text bytes => Hex.decodePrefixed_eq_ok_iff
  · exact fun text ds bytes => Hex.encodePrefixed_of_decodePrefixed
  · exact fun bytes => Hex.decodePrefixed_encodePrefixed
  · exact fun text fault => Hex.decodePrefixed_eq_error_iff
  · intro text c ds h hc
    exact Hex.decodePrefixed_eq_error_iff.mpr (Hex.first_of_doubled h hc)
  · exact fun text => ForkVersion.exists_read_eq_ok_iff
  · exact ForkVersion.read_text
  · exact fun text v => ForkVersion.text_of_read

/-- Digits and a prefix in both cases, a doubled prefix, and a fork version. -/
theorem mixed_case_read :
    (Marked "0XaB0f" ['a', 'B', '0', 'f'] ∧ Hex.decodePrefixed "0XaB0f" = .ok [0xab, 0x0f] ∧
      Hex.encodePrefixed [0xab, 0x0f] = "0x" ++ Text.asciiLower "aB0f") ∧
    Hex.decodePrefixed (Hex.encodePrefixed [0xff]) = .ok [0xff] ∧
    (Marked "0x0Xg" ['0', 'X', 'g'] ∧
      Hex.decodePrefixed "0x0Xg" = .error (.badCharacter 'X')) ∧
    ForkVersion.read "0X9000006A" = .ok ⟨#v[0x90, 0x00, 0x00, 0x6a]⟩ ∧
      ForkVersion.text ⟨#v[0x90, 0x00, 0x00, 0x6a]⟩ = Text.asciiLower "0X9000006A" := by
  obtain ⟨-, -, hwritten, hback, -, hdoubled, -, -, hversion⟩ := prefixed_hex_exact
  have hmarked : Marked "0XaB0f" ['a', 'B', '0', 'f'] := .inr rfl
  have hdecode : Hex.decodePrefixed "0XaB0f" = .ok [0xab, 0x0f] := rfl
  have hagain : Marked "0x0Xg" ['0', 'X', 'g'] := .inl rfl
  have hread : ForkVersion.read "0X9000006A" = .ok ⟨#v[0x90, 0x00, 0x00, 0x6a]⟩ := rfl
  exact ⟨⟨hmarked, hdecode, hwritten _ _ _ hmarked hdecode⟩, hback _ (by decide),
    ⟨hagain, hdoubled _ _ _ hagain (.inr rfl)⟩, hread, hversion _ _ hread⟩

end BuilderRelay
