import BuilderRelay.Json.ByteField
import BuilderRelay.Proofs.Json.Strings

/-!
# Values are read back

`Reads r text a` says that the reader `r` takes `a` from the text, whatever stands behind it as long
as a value may end there. Only a number looks at what that is. A list is read back if its elements
are; what stands between its brackets, or those of an object, is a series of texts with commas.
-/

namespace BuilderRelay.Json

open Utf8

variable {α σ : Type}

/-- Whether a value may end before these bytes; only a number could go on. -/
def Delimited (tail : Bytes) : Prop :=
  ∀ b ∈ tail.head?, isBlank b ∨ b = 0x2c ∨ b = 0x5d ∨ b = 0x7d

theorem delimited_nil : Delimited [] := by simp [Delimited]

/-- A byte that a value starts with: no space, and not the end of a list. -/
def startsValue (b : UInt8) : Bool := !isBlank b && b ≠ 0x5d

structure Reads (r : Reader α) (text : String) (a : α) : Prop where
  starts : (encode text).head?.any startsValue
  reads : ∀ tail, Delimited tail → r ⟨encode text ++ tail, none⟩ = .ok (a, ⟨tail, none⟩)

theorem skipBlank_cons {b : UInt8} (h : isBlank b = false) (rest : Bytes) :
    skipBlank (b :: rest) = b :: rest := by
  simp [skipBlank, h]

theorem skipBlank_eq_nil_iff {bytes : Bytes} : skipBlank bytes = [] ↔ ∀ b ∈ bytes, isBlank b := by
  induction bytes with
  | nil => simp [skipBlank]
  | cons b bytes ih =>
      rw [skipBlank] at ih
      cases hb : isBlank b <;> simp [skipBlank, hb, ih]

/-- A text is read as a value only up to its end; space may follow the value. -/
theorem decode_eq_ok_iff {r : Reader α} {text : Bytes} {a : α} :
    Json.decode r text = .ok a ↔ ∃ c, r (.start text) = .ok (a, c) ∧ ∀ b ∈ c.rest, isBlank b := by
  unfold Json.decode
  cases hread : r (.start text) with
  | error fault => simp
  | ok read =>
      obtain ⟨a', c⟩ := read
      have hrest : (∀ b ∈ c.rest, isBlank b) ↔ skipBlank c.rest = [] := skipBlank_eq_nil_iff.symm
      simp only [Except.ok.injEq, Prod.mk.injEq, and_assoc, exists_and_left, exists_eq_left', hrest]
      cases skipBlank c.rest <;> simp

theorem Reads.encode_eq_cons {r : Reader α} {text : String} {a : α} (h : Reads r text a) :
    ∃ b rest, encode text = b :: rest ∧ isBlank b = false ∧ b ≠ 0x5d := by
  obtain ⟨b, hb, hstart⟩ := (Option.any_eq_true ..).mp h.starts
  obtain ⟨rest, hrest⟩ := List.head?_eq_some_iff.mp hb
  simp only [startsValue, Bool.and_eq_true, Bool.not_eq_true', decide_eq_true_eq] at hstart
  exact ⟨b, rest, hrest, hstart⟩

/-- A text that is a value of the type is one by itself. -/
theorem Reads.decode {r : Reader α} {text : String} {a : α} (h : Reads r text a) :
    Json.decode r (encode text) = .ok a := by
  have hread := h.reads [] delimited_nil
  rw [List.append_nil] at hread
  simp only [Json.decode, Cursor.start, hread]
  rfl

/-! ## Where values end -/

/-- Whether digits end before these bytes. -/
def EndsDigits (rest : Bytes) : Prop := ∀ b ∈ rest.head?, isDigit b = false

theorem dropWhile_digits {digits rest : Bytes} (h : ∀ b ∈ digits, isDigit b)
    (hrest : EndsDigits rest) : (digits ++ rest).dropWhile isDigit = rest := by
  rw [List.dropWhile_append_of_pos h]
  cases rest with
  | nil => rfl
  | cons b rest => simp [hrest b rfl]

theorem Delimited.plain {b : UInt8} {tail : Bytes} (h : Delimited (b :: tail)) :
    isDigit b = false ∧ b ≠ 0x2e ∧ isExponentLetter b = false := by
  have hcases := h b rfl
  simp only [isBlank, Bool.or_eq_true, beq_iff_eq, or_assoc] at hcases
  rcases hcases with rfl | rfl | rfl | rfl | rfl | rfl | rfl <;> decide

theorem Delimited.endsDigits {tail : Bytes} (h : Delimited tail) : EndsDigits tail := by
  cases tail with
  | nil => exact fun b hb => absurd hb (by simp)
  | cons b tail =>
      intro b' hb'
      obtain rfl : b = b' := by simpa using hb'
      exact h.plain.1

theorem peek_cons {b : UInt8} (h : isBlank b = false) (rest : Bytes) :
    Reader.peek (b :: rest) = .ok (b, rest) := by
  simp only [Reader.peek, skipBlank_cons h]

/-! ## Texts between brackets -/

/-- What stands before a text between brackets. -/
def comma (first : Bool) : Bytes := if first then [] else [0x2c]

/-- Texts between brackets, from one that may be the first. -/
def series : (first : Bool) → List Bytes → Bytes
  | _, [] => []
  | first, text :: texts => comma first ++ text ++ series false texts

theorem encode_intercalate_cons (text : String) (texts : List String) :
    encode (",".intercalate (text :: texts)) = encode text ++ series false (texts.map encode) := by
  induction texts generalizing text with
  | nil => simp [series]
  | cons next texts ih =>
      rw [String.intercalate_cons_cons, encode_append, encode_append, ih, List.append_assoc]
      rfl

theorem encode_intercalate (texts : List String) :
    encode (",".intercalate texts) = series true (texts.map encode) := by
  cases texts with
  | nil => rfl
  | cons text texts => exact encode_intercalate_cons text texts

theorem length_le_series (texts : List Bytes) : texts.length ≤ (series false texts).length := by
  induction texts with
  | nil => exact Nat.le_refl 0
  | cons text texts ih =>
      simp only [series, comma, List.length_append, List.length_cons, Bool.false_eq_true,
        if_false, List.length_nil]
      omega

theorem length_series_le (first : Bool) (texts : List Bytes) :
    (series first texts).length ≤ (series false texts).length := by
  cases texts with
  | nil => exact Nat.le_refl 0
  | cons text texts =>
      cases first with
      | false => exact Nat.le_refl _
      | true =>
          simp only [series, comma, List.length_append, if_true, List.length_nil]
          omega

/-- There are no more texts than bytes up to the closing bracket. -/
theorem length_le_series_close (texts : List Bytes) (close : UInt8) (tail : Bytes) :
    texts.length ≤ (series true texts ++ close :: tail).length := by
  cases texts with
  | nil => simp
  | cons text texts =>
      have hle := length_le_series texts
      simp only [series, List.length_append, List.length_cons]
      omega

theorem delimited_series (texts : List Bytes) {close : UInt8} (h : close = 0x5d ∨ close = 0x7d)
    (tail : Bytes) : Delimited (series false texts ++ close :: tail) := by
  cases texts with
  | nil => simpa [Delimited, series] using .inr (.inr h)
  | cons text texts => simp [Delimited, series, comma]

/-! ## Objects -/

/-- A member as it is written. -/
def memberText (m : String × String) : Bytes := encode (quoted m.1) ++ 0x3a :: encode m.2

theorem encode_object (ms : List (String × String)) :
    encode (object ms) = 0x7b :: (series true (ms.map memberText) ++ [0x7d]) := by
  have hmember : encode ∘ (fun m : String × String => quoted m.1 ++ ":" ++ m.2) = memberText := by
    funext m
    simp only [Function.comp, memberText, encode_append, List.append_assoc]
    rfl
  rw [object, encode_append, encode_append, encode_intercalate, List.map_map, hmember]
  rfl

/-! ## Lists -/

theorem encode_array (texts : List String) :
    encode (array texts) = 0x5b :: (series true (texts.map encode) ++ [0x5d]) := by
  rw [array, encode_append, encode_append, encode_intercalate]
  rfl

theorem nextElement_done (first : Bool) (tail : Bytes) :
    Reader.nextElement first (0x5d :: tail) = .ok none := by
  simp only [Reader.nextElement, skipBlank_cons (b := 0x5d) (by decide), if_true]

theorem nextElement_comma {r : Reader α} {text : String} {a : α} (h : Reads r text a)
    (first : Bool) (tail : Bytes) :
    Reader.nextElement first (comma first ++ encode text ++ tail) =
      .ok (some (encode text ++ tail)) := by
  obtain ⟨b, rest, htext, hblank, hend⟩ := h.encode_eq_cons
  rw [htext]
  cases first with
  | true => simp [comma, Reader.nextElement, skipBlank_cons hblank, hend]
  | false =>
      simp [comma, Reader.nextElement, skipBlank_cons (b := 0x2c) (by decide),
        skipBlank_cons hblank, hend]

theorem elements_step {r : Reader α} {text : String} {a : α} (h : Reads r text a)
    (acc : List α) {rest : Bytes} (hrest : Delimited rest) (b : UInt8) (fuel : Bytes) :
    Reader.elements r (b :: fuel) acc ⟨comma acc.isEmpty ++ encode text ++ rest, none⟩ =
      Reader.elements r fuel (a :: acc) ⟨rest, none⟩ := by
  have hnext := nextElement_comma h acc.isEmpty rest
  have hvalue : Reader.within (.index acc.length) r ⟨encode text ++ rest, none⟩ =
      .ok (a, ⟨rest, none⟩) := by
    simp only [Reader.within, h.reads rest hrest]
    rfl
  conv => lhs; rw [Reader.elements]
  simp only [hnext, hvalue]

section

variable {r : Reader α} {text : α → String}

theorem elements_series {as : List α} (h : ∀ a ∈ as, Reads r (text a) a) (acc : List α)
    {fuel : Bytes} (hfuel : as.length ≤ fuel.length) (tail : Bytes) :
    Reader.elements r fuel acc
        ⟨series acc.isEmpty (as.map (encode ∘ text)) ++ 0x5d :: tail, none⟩ =
      .ok (acc.reverse ++ as, ⟨0x5d :: tail, none⟩) := by
  induction as generalizing acc fuel with
  | nil =>
      rw [Reader.elements]
      simp [series, nextElement_done]
  | cons a as ih =>
      cases fuel with
      | nil => simp at hfuel
      | cons b fuel =>
          obtain ⟨ha, has⟩ := List.forall_mem_cons.mp h
          have hrest := delimited_series (as.map (encode ∘ text)) (.inl rfl) tail
          have hstep := elements_step ha acc hrest b fuel
          have hlater := ih has (a :: acc) (Nat.le_of_succ_le_succ hfuel)
          rw [List.isEmpty_cons] at hlater
          rw [List.map_cons, series, List.append_assoc, Function.comp_apply, hstep, hlater]
          simp

/-- A list is read if its elements are. -/
theorem reads_list {as : List α} (h : ∀ a ∈ as, Reads r (text a) a) :
    Reads (Reader.list r) (array (as.map text)) as where
  starts := by
    rw [encode_array]
    rfl
  reads tail _ := by
    have hfuel := length_le_series_close (as.map (encode ∘ text)) 0x5d tail
    rw [List.length_map] at hfuel
    have helements : Reader.elements r _ [] _ = .ok (as, _) := elements_series h [] hfuel tail
    simp only [List.isEmpty_nil] at helements
    simp only [encode_array, List.map_map, List.cons_append, List.append_assoc,
      List.nil_append, Reader.list, peek_cons (b := 0x5b) (by decide), if_true, helements,
      Reader.lift, Reader.endSequence, skipBlank_cons (b := 0x5d) (by decide)]
    rfl

end

end BuilderRelay.Json
