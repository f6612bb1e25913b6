import BuilderRelay.Bls.Encoding
import BuilderRelay.Proofs.Text.Numerals

/-!
# Exchanging two texts in a text

From left to right, every occurrence of the one is replaced by the other. A text that is shorter
than both has no occurrence of them, and one that only begins with other characters keeps its
beginning. Public keys are exchanged in a text by exchanging their hexadecimal forms.
-/

namespace BuilderRelay.Text

/-- Replaces `a` by `b` and `b` by `a`. The first `skip` characters belong to an occurrence that is
replaced already. -/
def exchangeChars (a b : List Char) : Nat → List Char → List Char
  | _, [] => []
  | skip + 1, _ :: cs => exchangeChars a b skip cs
  | 0, c :: cs =>
      if a.isPrefixOf (c :: cs) then b ++ exchangeChars a b (a.length - 1) cs
      else if b.isPrefixOf (c :: cs) then a ++ exchangeChars a b (b.length - 1) cs
      else c :: exchangeChars a b 0 cs

def exchange (a b text : String) : String :=
  .ofList (exchangeChars a.toList b.toList 0 text.toList)

variable {a b cs : List Char}

theorem exchangeChars_skip (skip : Nat) :
    exchangeChars a b skip cs = exchangeChars a b 0 (cs.drop skip) := by
  induction skip generalizing cs with
  | zero => rfl
  | succ skip ih =>
      cases cs with
      | nil => rfl
      | cons c cs => exact ih

theorem isPrefixOf_of_length_lt (h : cs.length < a.length) : a.isPrefixOf cs = false := by
  rw [← Bool.not_eq_true, List.isPrefixOf_iff_prefix]
  intro hprefix
  have hle := hprefix.length_le
  omega

theorem exchangeChars_of_length_lt (ha : cs.length < a.length) (hb : cs.length < b.length) :
    exchangeChars a b 0 cs = cs := by
  induction cs with
  | nil => rfl
  | cons c cs ih =>
      rw [exchangeChars, isPrefixOf_of_length_lt ha, isPrefixOf_of_length_lt hb,
        ih (Nat.lt_of_succ_lt ha) (Nat.lt_of_succ_lt hb)]
      rfl

/-- Where neither text begins, nothing is replaced. -/
theorem exchangeChars_append {first : Char} {before : List Char} (h : first ∉ before) :
    exchangeChars (first :: a) (first :: b) 0 (before ++ cs) =
      before ++ exchangeChars (first :: a) (first :: b) 0 cs := by
  induction before with
  | nil => rfl
  | cons c before ih =>
      obtain ⟨hc, hbefore⟩ := List.ne_and_not_mem_of_not_mem_cons h
      have hne : (first == c) = false := beq_eq_false_iff_ne.mpr hc
      rw [List.cons_append, exchangeChars]
      simp only [List.isPrefixOf, hne, Bool.false_and, Bool.false_eq_true, if_false]
      rw [ih hbefore, List.cons_append]

theorem exchangeChars_self (h : a ≠ []) :
    exchangeChars a b 0 (a ++ cs) = b ++ exchangeChars a b 0 cs := by
  obtain ⟨c, rest, rfl⟩ := List.exists_cons_of_ne_nil h
  have hprefix : (c :: rest).isPrefixOf (c :: (rest ++ cs)) = true :=
    List.isPrefixOf_iff_prefix.mpr ⟨cs, rfl⟩
  rw [List.cons_append, exchangeChars, if_pos hprefix, exchangeChars_skip, List.length_cons,
    Nat.add_sub_cancel, List.drop_left]

example : exchange "ab" "cd" "xab, cdaby" = "xcd, abcdy" := by decide +kernel

end BuilderRelay.Text

/-! ## Public keys -/

namespace BuilderRelay.Bls

def exchangeKeys (p q : PublicKey) (text : String) : String :=
  Text.exchange (Hex.encodePrefixed p.toList) (Hex.encodePrefixed q.toList) text

variable {p q : PublicKey}

theorem length_keyText (p : PublicKey) : (Hex.encodePrefixed p.toList).toList.length = 98 := by
  rw [Hex.length_encodePrefixed, Vector.length_toList]

theorem exchangeKeys_of_length_lt {text : String} (h : text.toList.length < 98) :
    exchangeKeys p q text = text := by
  rw [exchangeKeys, Text.exchange, Text.exchangeChars_of_length_lt (by rwa [length_keyText])
    (by rwa [length_keyText]), String.ofList_toList]

/-- The text of the one key becomes that of the other, between texts that have neither. -/
theorem exchangeKeys_between {before after : String} (hbefore : '0' ∉ before.toList)
    (hafter : after.toList.length < 98) :
    exchangeKeys p q (before ++ Hex.encodePrefixed p.toList ++ after) =
      before ++ Hex.encodePrefixed q.toList ++ after := by
  have hp := length_keyText p
  have hq := length_keyText q
  apply String.toList_inj.mp
  rw [exchangeKeys, Text.exchange, String.toList_ofList]
  simp only [String.toList_append, List.append_assoc]
  rw [Hex.toList_encodePrefixed, Hex.toList_encodePrefixed] at *
  rw [Text.exchangeChars_append hbefore, Text.exchangeChars_self (List.cons_ne_nil _ _),
    Text.exchangeChars_of_length_lt (by omega) (by omega)]

theorem exchangeKeys_self :
    exchangeKeys p q (Hex.encodePrefixed p.toList) = Hex.encodePrefixed q.toList := by
  have h : exchangeKeys p q ("" ++ Hex.encodePrefixed p.toList ++ "") =
      "" ++ Hex.encodePrefixed q.toList ++ "" := exchangeKeys_between (by decide) (by decide)
  rwa [String.empty_append, String.empty_append, String.append_empty, String.append_empty] at h

end BuilderRelay.Bls
