import BuilderRelay.Text.Whitespace
import Mathlib.Data.List.TakeWhile

/-!
# Trimming

What is left of a text without the white space around it: a part of the text that has white space
before and behind it, but does not begin or end with any. There is one such part, and trimming
gives it.
-/

namespace BuilderRelay.Text

structure Trims (text core : String) : Prop where
  around : ∃ before after, text.toList = before ++ (core.toList ++ after) ∧
    (∀ c ∈ before, isWhiteSpace c) ∧ ∀ c ∈ after, isWhiteSpace c
  first : ∀ c ∈ core.toList.head?, isWhiteSpace c = false
  last : ∀ c ∈ core.toList.getLast?, isWhiteSpace c = false

section

variable {α : Type} {drop : α → Bool}

theorem dropWhile_append_of_head {before rest : List α} (hbefore : ∀ a ∈ before, drop a)
    (hrest : ∀ a ∈ rest.head?, drop a = false) : (before ++ rest).dropWhile drop = rest := by
  rw [List.dropWhile_append_of_pos hbefore]
  cases rest with
  | nil => rfl
  | cons a rest => rw [List.dropWhile_cons_of_neg (by simp [hrest a rfl])]

theorem stripBoth_append {before core after : List α} (hbefore : ∀ a ∈ before, drop a)
    (hafter : ∀ a ∈ after, drop a) (hfirst : ∀ a ∈ core.head?, drop a = false)
    (hlast : ∀ a ∈ core.getLast?, drop a = false) :
    stripBoth drop (before ++ (core ++ after)) = core := by
  cases core with
  | nil =>
      have hall : ∀ a ∈ before ++ ([] ++ after), drop a := by
        simp only [List.nil_append, List.mem_append]
        rintro a (ha | ha)
        · exact hbefore a ha
        · exact hafter a ha
      rw [stripBoth, List.dropWhile_eq_nil_iff.mpr hall]
      rfl
  | cons c core =>
      have hreverse : (c :: core ++ after).reverse.dropWhile drop = (c :: core).reverse := by
        rw [List.reverse_append]
        apply dropWhile_append_of_head
        · simpa using hafter
        · rwa [List.head?_reverse]
      rw [stripBoth, dropWhile_append_of_head hbefore (by simpa using hfirst), hreverse,
        List.reverse_reverse]

theorem exists_stripBoth (drop : α → Bool) (l : List α) :
    ∃ before after, l = before ++ (stripBoth drop l ++ after) ∧ (∀ a ∈ before, drop a) ∧
      (∀ a ∈ after, drop a) ∧ (∀ a ∈ (stripBoth drop l).head?, drop a = false) ∧
      ∀ a ∈ (stripBoth drop l).getLast?, drop a = false := by
  have hrest : l.dropWhile drop =
      stripBoth drop l ++ ((l.dropWhile drop).reverse.takeWhile drop).reverse := by
    rw [stripBoth, ← List.reverse_append, List.takeWhile_append_dropWhile, List.reverse_reverse]
  refine ⟨l.takeWhile drop, ((l.dropWhile drop).reverse.takeWhile drop).reverse, ?_, ?_, ?_, ?_, ?_⟩
  · rw [← hrest, List.takeWhile_append_dropWhile]
  · exact fun a => List.mem_takeWhile_imp
  · intro a ha
    exact List.mem_takeWhile_imp (List.mem_reverse.mp ha)
  · intro a ha
    have hhead : (l.dropWhile drop).head? = some a := by
      rw [hrest, List.head?_append, Option.mem_def.mp ha, Option.some_or]
    have hnot := List.head?_dropWhile_not drop l
    simpa [hhead] using hnot
  · intro a ha
    rw [stripBoth, List.getLast?_reverse] at ha
    have hnot := List.head?_dropWhile_not drop (l.dropWhile drop).reverse
    simpa [Option.mem_def.mp ha] using hnot

end

theorem trims_iff {text core : String} : Trims text core ↔ core = trim text := by
  constructor
  · rintro ⟨⟨before, after, htext, hbefore, hafter⟩, hfirst, hlast⟩
    rw [trim, htext, stripBoth_append hbefore hafter hfirst hlast, String.ofList_toList]
  · rintro rfl
    obtain ⟨before, after, htext, hbefore, hafter, hfirst, hlast⟩ :=
      exists_stripBoth isWhiteSpace text.toList
    constructor
    · exact ⟨before, after, by rwa [trim, String.toList_ofList], hbefore, hafter⟩
    · rwa [trim, String.toList_ofList]
    · rwa [trim, String.toList_ofList]

end BuilderRelay.Text
