import BuilderRelay.Proofs.Text.Numerals
import BuilderRelay.Storage.Key
import Mathlib.Data.List.Basic

/-!
# Keys of different parts

A key joins its prefix and its parts with colons, so that no part is lost as long as no part has a
colon of its own: the text behind the prefix, split at the colons, is an empty text and the parts.
Without parts there is only the empty text, and with one empty part there are two. Numerals have no
colon, and numbers have different ones.
-/

namespace BuilderRelay

namespace Text

/-- The texts that stand before, between and behind the marks of a text. -/
def pieces (mark : Char) (text : String) : List String :=
  (text.split mark).toList.map String.Slice.copy

theorem pieces_intercalate {mark : Char} {texts : List String} (hne : texts ≠ [])
    (h : ∀ text ∈ texts, mark ∉ text.toList) :
    pieces mark ((String.singleton mark).intercalate texts) = texts := by
  rw [pieces, String.toList_split_intercalate h, if_neg hne]

end Text

variable (head : String)

theorem keyWithPrefix_eq_intercalate (parts : List String) :
    keyWithPrefix head parts = ":".intercalate (head :: parts) := by
  -- Each part is folded into the key before the next one, so the head has to vary.
  induction parts generalizing head with
  | nil => exact String.intercalate_singleton.symm
  | cons part parts ih =>
      calc
        keyWithPrefix head (part :: parts) = keyWithPrefix (head ++ ":" ++ part) parts := rfl
        _ = ":".intercalate ((head ++ ":" ++ part) :: parts) := ih _
        _ = ":".intercalate (head :: part :: parts) := by
          rw [String.intercalate_cons_append, String.intercalate_cons_cons]

/-- What the parts add to a key does not depend on the prefix. -/
theorem keyWithPrefix_eq_append (parts : List String) :
    keyWithPrefix head parts = head ++ keyWithPrefix "" parts := by
  rw [keyWithPrefix_eq_intercalate, keyWithPrefix_eq_intercalate, ← String.intercalate_cons_append,
    String.append_empty]

theorem pieces_keyWithPrefix {parts : List String} (h : ∀ part ∈ parts, ':' ∉ part.toList) :
    Text.pieces ':' (keyWithPrefix "" parts) = "" :: parts := by
  rw [keyWithPrefix_eq_intercalate]
  exact Text.pieces_intercalate (List.cons_ne_nil _ _) (List.forall_mem_cons.mpr ⟨by simp, h⟩)

theorem eq_of_keyWithPrefix_eq {ps qs : List String} (hps : ∀ p ∈ ps, ':' ∉ p.toList)
    (hqs : ∀ q ∈ qs, ':' ∉ q.toList) (h : keyWithPrefix head ps = keyWithPrefix head qs) :
    ps = qs := by
  rw [keyWithPrefix_eq_append head ps, keyWithPrefix_eq_append head qs,
    String.append_right_inj] at h
  have hpieces : "" :: ps = "" :: qs := by
    rw [← pieces_keyWithPrefix hps, h, pieces_keyWithPrefix hqs]
  exact List.tail_eq_of_cons_eq hpieces

-- Parts with colons of their own run together.
example : keyWithPrefix "relay" ["a:b"] = keyWithPrefix "relay" ["a", "b"] := by decide

/-- Parts that are written without colons, and differently if they are different. -/
theorem keyWithPrefix_map_injective {α : Type} {text : α → String}
    (htext : Function.Injective text) (hcolon : ∀ a, ':' ∉ (text a).toList) :
    Function.Injective fun parts : List α => keyWithPrefix head (parts.map text) := by
  intro as bs h
  have hmap : ∀ parts : List α, ∀ p ∈ parts.map text, ':' ∉ p.toList := by
    intro parts p hp
    obtain ⟨a, -, rfl⟩ := List.mem_map.mp hp
    exact hcolon a
  exact htext.list_map (eq_of_keyWithPrefix_eq head (hmap as) (hmap bs) h)

/-- Under one prefix, no two lists of parts without colons have the same key, and no two lists of
64-bit numbers. Split at its colons, what stands behind the prefix gives the parts in their
order. -/
theorem namespaced_keys_distinct :
    (∀ ps qs : List String, (∀ p ∈ ps, ':' ∉ p.toList) → (∀ q ∈ qs, ':' ∉ q.toList) →
      keyWithPrefix head ps = keyWithPrefix head qs → ps = qs) ∧
    (Function.Injective fun ns : List UInt64 =>
      keyWithPrefix head (ns.map fun n => toString n.toNat)) ∧
    ∀ parts : List String, (∀ p ∈ parts, ':' ∉ p.toList) →
      ∃ behind, keyWithPrefix head parts = head ++ behind ∧
        Text.pieces ':' behind = "" :: parts := by
  refine ⟨?strings, ?numbers, ?split⟩
  case strings =>
    intro ps qs hps hqs h
    exact eq_of_keyWithPrefix_eq head hps hqs h
  case numbers =>
    refine keyWithPrefix_map_injective head ?_ ?_
    · intro n m h
      exact UInt64.toNat_inj.mp (Text.toString_injective h)
    · intro n hcolon
      exact absurd (Text.isDigit_of_mem_toString hcolon) (by decide)
  case split =>
    intro parts hparts
    exact ⟨_, keyWithPrefix_eq_append head parts, pieces_keyWithPrefix hparts⟩

/-- Empty parts are found under a prefix that ends in a colon, one empty part is told from none, and
the digits of numbers do not run together. -/
theorem empty_parts_distinct :
    (∃ behind, keyWithPrefix "relay:" ["", "a", ""] = "relay:" ++ behind ∧
      Text.pieces ':' behind = ["", "", "a", ""]) ∧
    keyWithPrefix "relay:" [] ≠ keyWithPrefix "relay:" [""] ∧
    keyWithPrefix "relay:" (([1, 23] : List UInt64).map fun n => toString n.toNat) ≠
      keyWithPrefix "relay:" (([12, 3] : List UInt64).map fun n => toString n.toNat) := by
  obtain ⟨hstrings, hnumbers, hsplit⟩ := namespaced_keys_distinct "relay:"
  refine ⟨hsplit _ (by decide), ?_, ?_⟩
  · intro h
    exact absurd (hstrings _ _ (by decide) (by decide) h) (by decide)
  · intro h
    exact absurd (hnumbers h) (by decide)

end BuilderRelay
