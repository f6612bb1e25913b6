import Mathlib.Data.List.Pairwise
import BuilderRelay.Proofs.Json.Forms

/-!
# Objects are read in any layout

The loop over the members of an object is followed member by member. Behind each the partial result
holds what the members so far stand for, one for each entry at most, or the loop has stopped because
of an entry at fault.
-/

namespace BuilderRelay.Json

open Utf8

variable {σ α : Type}

/-! ## Fields and entries -/

/-- An entry with the field that reads its member. -/
structure Slot (σ α : Type) extends Entry α where
  get : σ → Option β
  set : β → σ → σ
  reader : Reader β
  required : Bool := true

namespace Slot

def field (slot : Slot σ α) : Field σ :=
  .of slot.name slot.get slot.set slot.reader slot.required

structure Lawful (slot : Slot σ α) : Prop where
  get_set : ∀ b s, slot.get (slot.set b s) = some b
  readBy : slot.form.ReadBy slot.reader Delimited

/-- Slots with members of different names, kept in different components. -/
def Apart (slot slot' : Slot σ α) : Prop :=
  slot.name ≠ slot'.name ∧ (∀ b s, slot'.get (slot.set b s) = slot'.get s) ∧
    ∀ b s, slot.get (slot'.set b s) = slot.get s

instance : Std.Symm (@Apart σ α) where
  symm _ _ h := ⟨h.1.symm, h.2.2, h.2.1⟩

/-- The part of the value that a partial result has, or that it has without the member. -/
def found (slot : Slot σ α) (s : σ) : Option slot.β := (slot.get s).or slot.default

end Slot

/-- A record that reads the entries of the slots. -/
structure Implements (slots : List (Slot σ α)) (r : Record σ α) : Prop where
  fields : r.fields = slots.map Slot.field
  initial : ∀ slot ∈ slots, slot.get r.initial = none
  lawful : ∀ slot ∈ slots, slot.Lawful
  apart : slots.Pairwise Slot.Apart
  complete : ∀ s a, (∀ slot ∈ slots, slot.found s = some (slot.part a)) → r.finish s = .ok a
  missing : ∀ s, ∀ slot ∈ slots, slot.found s = none → ∃ name, r.finish s = .error name

/-! ## Members -/

theorem texts_append (ms ms' : List Member) (name : String) :
    texts (ms ++ ms') name = texts ms name ++ texts ms' name := by
  simp [texts]

theorem texts_singleton_self (m : Member) : texts [m] m.1 = [m.2] := by simp [texts]

theorem texts_singleton_of_ne {m : Member} {name : String} (h : m.1 ≠ name) :
    texts [m] name = [] := by
  simp [texts, h]

theorem texts_eq_nil {ms : List Member} {name : String} (h : ∀ m ∈ ms, m.1 ≠ name) :
    texts ms name = [] := by
  simpa [texts] using h

theorem mem_texts {ms : List Member} {m : Member} (h : m ∈ ms) : m.2 ∈ texts ms m.1 := by
  simp only [texts, List.mem_map, List.mem_filter, decide_eq_true_eq]
  exact ⟨m, ⟨h, rfl⟩, rfl⟩

theorem nextKey_name {w w' : Bytes} {name : String} {n : Bytes} (hw : IsSpace w)
    (hw' : IsSpace w') (hn : StringText name n) (first : Bool) (rest : Bytes) :
    Reader.nextKey first (w ++ (comma first ++ (w' ++ (n ++ rest)))) = .ok (some (name, rest)) := by
  obtain ⟨hbody⟩ := hn
  have hread := readString_charsText hbody rest
  cases first with
  | true =>
      simp [comma, Reader.nextKey, skipBlank_append hw, skipBlank_append hw',
        skipBlank_cons (b := 0x22) (by decide), hread, Except.map]
  | false =>
      simp [comma, Reader.nextKey, skipBlank_append_cons hw (b := 0x2c) (by decide),
        skipBlank_append_cons hw' (b := 0x22) (by decide), hread, Except.map]

theorem nextKey_close {w : Bytes} (hw : IsSpace w) (first : Bool) (tail : Bytes) :
    Reader.nextKey first (w ++ 0x7d :: tail) = .ok none := by
  simp only [Reader.nextKey, skipBlank_append_cons hw (b := 0x7d) (by decide), if_true]

theorem colon_append {w : Bytes} (hw : IsSpace w) (rest : Bytes) :
    Reader.colon (w ++ 0x3a :: rest) = .ok rest := by
  simp only [Reader.colon, skipBlank_append_cons hw (b := 0x3a) (by decide), if_true]

theorem within_afterColon_ok {r : Reader α} {a : α} {w rest tail : Bytes} (hw : IsSpace w)
    (h : r ⟨rest, none⟩ = .ok (a, ⟨tail, none⟩)) (segment : Segment) :
    Reader.within segment (Reader.afterColon r) ⟨w ++ 0x3a :: rest, none⟩ =
      .ok (a, ⟨tail, none⟩) := by
  simp only [Reader.within, Reader.afterColon, colon_append hw, h]
  rfl

theorem within_afterColon_error {r : Reader α} {fault : Fault} {w rest : Bytes} (hw : IsSpace w)
    (h : r ⟨rest, none⟩ = .error fault) (segment : Segment) :
    ∃ fault', Reader.within segment (Reader.afterColon r) ⟨w ++ 0x3a :: rest, none⟩ =
      .error fault' := by
  simp only [Reader.within, Reader.afterColon, colon_append hw, h]
  exact ⟨_, rfl⟩

def memberValue (fields : List (Field σ)) (s : σ) (key : String) (c : Cursor) :
    Except Fault (σ × Cursor) :=
  match fields.find? (·.name = key) with
  | none => Reader.within (.key key) (Reader.afterColon (Reader.ignored s)) c
  | some field =>
      if field.isSet s then Reader.misfit c (.duplicateField key) (Reader.pastMap c.rest)
      else Reader.within (.key key) (Reader.afterColon (field.read s)) c

theorem members_of_nextKey {first : Bool} {rest rest' : Bytes} {key : String}
    (h : Reader.nextKey first rest = .ok (some (key, rest'))) (fields : List (Field σ)) (b : UInt8)
    (fuel : Bytes) (s : σ) :
    Reader.members fields (b :: fuel) first s ⟨rest, none⟩ =
      match memberValue fields s key ⟨rest', none⟩ with
      | .error fault => .error fault
      | .ok (s, c) => Reader.members fields fuel false s c := by
  rw [Reader.members]
  simp only [h]
  rfl

/-! ## What a partial result holds -/

variable {slots : List (Slot σ α)} {ms : List Member} {s : σ}

/-- Whether a partial result is what the members stand for. -/
def Holds (slots : List (Slot σ α)) (ms : List Member) (s : σ) : Prop :=
  ∀ slot ∈ slots, texts ms slot.name = [] ∧ slot.get s = none ∨
    ∃ b t, texts ms slot.name = [t] ∧ slot.form.spells b t ∧ slot.get s = some b

/-- Whether one of the members should not be there. -/
def AtFault (slots : List (Slot σ α)) (ms : List Member) : Prop :=
  ∃ slot ∈ slots, 2 ≤ (texts ms slot.name).length ∨
    ∃ t ∈ texts ms slot.name, slot.form.faulty t

/-- Whether the value of a member is one that its slot, or any reader, has to make something of. -/
structure Readable (slots : List (Slot σ α)) (m : Member) : Prop where
  known : ∀ slot ∈ slots, m.1 = slot.name →
    (∃ b, slot.form.spells b m.2) ∨ slot.form.faulty m.2
  other : (∀ slot ∈ slots, m.1 ≠ slot.name) → IsValue m.2

theorem Holds.nil (h : ∀ slot ∈ slots, slot.get s = none) : Holds slots [] s :=
  fun slot hslot => .inl ⟨rfl, h slot hslot⟩

theorem Holds.other {m : Member} (h : Holds slots ms s) (hm : ∀ slot ∈ slots, m.1 ≠ slot.name) :
    Holds slots (ms ++ [m]) s := by
  intro slot hslot
  rw [texts_append, texts_singleton_of_ne (hm slot hslot), List.append_nil]
  exact h slot hslot

/-- The slot of a member takes its value, and the other slots keep theirs. -/
theorem Holds.set {slot : Slot σ α} {m : Member} {b : slot.β} (h : Holds slots ms s)
    (hlawful : slot.Lawful) (hapart : slots.Pairwise Slot.Apart) (hslot : slot ∈ slots)
    (hm : m.1 = slot.name) (hunset : slot.get s = none) (hspells : slot.form.spells b m.2) :
    Holds slots (ms ++ [m]) (slot.set b s) := by
  intro slot' hslot'
  by_cases heq : slot = slot'
  · subst heq
    have hnone : texts ms slot.name = [] := by
      rcases h slot hslot with ⟨hnone, -⟩ | ⟨b', t, -, -, hset⟩
      · exact hnone
      · rw [hunset] at hset
        cases hset
    refine .inr ⟨b, m.2, ?_, hspells, hlawful.get_set b s⟩
    rw [texts_append, hnone, ← hm, texts_singleton_self, List.nil_append]
  · have happart' := hapart.forall hslot hslot' heq
    have hne : m.1 ≠ slot'.name := hm ▸ happart'.1
    rw [texts_append, texts_singleton_of_ne hne, List.append_nil, happart'.2.1]
    exact h slot' hslot'

theorem AtFault.append (h : AtFault slots ms) (ms' : List Member) :
    AtFault slots (ms ++ ms') := by
  obtain ⟨slot, hslot, hfault⟩ := h
  refine ⟨slot, hslot, ?_⟩
  rw [texts_append]
  rcases hfault with htwice | ⟨t, ht, hfaulty⟩
  · left
    rw [List.length_append]
    omega
  · exact .inr ⟨t, List.mem_append_left _ ht, hfaulty⟩

/-! ## The loop -/

/-- What reading the members comes to: they are held in the end, and `rest` is left behind space,
or reading stopped at one that should not be there. -/
def Reached (slots : List (Slot σ α)) (ms : List Member) (rest : Bytes)
    (result : Except Fault (σ × Cursor)) : Prop :=
  (∃ s w, result = .ok (s, ⟨w ++ rest, none⟩) ∧ IsSpace w ∧ Holds slots ms s) ∨
    ∃ fault, result = .error fault ∧ AtFault slots ms

theorem find_field {r : Record σ α} (h : Implements slots r) (name : String) :
    r.fields.find? (·.name = name) = none ∧ (∀ slot ∈ slots, name ≠ slot.name) ∨
      ∃ slot ∈ slots, name = slot.name ∧ r.fields.find? (·.name = name) = some slot.field := by
  rw [h.fields, List.find?_map]
  cases hfind : slots.find? ((fun field : Field σ => decide (field.name = name)) ∘ Slot.field) with
  | none =>
      refine .inl ⟨rfl, fun slot hslot heq => ?_⟩
      have hne := List.find?_eq_none.mp hfind slot hslot
      simp only [Function.comp, decide_eq_true_eq] at hne
      exact hne heq.symm
  | some slot =>
      have hname := List.find?_some hfind
      simp only [Function.comp, decide_eq_true_eq] at hname
      exact .inr ⟨slot, List.mem_of_find?_eq_some hfind, hname.symm, rfl⟩

theorem reached_memberValue {r : Record σ α} (h : Implements slots r) (hholds : Holds slots ms s)
    {m : Member} (hm : Readable slots m) {w w' w'' rest : Bytes} (hw : IsSpace w)
    (hw' : IsSpace w') (hw'' : IsSpace w'') (hrest : Delimited rest) :
    Reached slots (ms ++ [m]) rest
      (memberValue r.fields s m.1 ⟨w ++ 0x3a :: (w' ++ (m.2 ++ (w'' ++ rest))), none⟩) := by
  have hend : Delimited (w'' ++ rest) := .append hw'' hrest
  rcases find_field h m.1 with ⟨hfind, hother⟩ | ⟨slot, hslot, hname, hfind⟩
  · have hskip : Reader.ignored s ⟨w' ++ (m.2 ++ (w'' ++ rest)), none⟩ =
        .ok (s, ⟨w'' ++ rest, none⟩) := by
      simp only [Reader.ignored, Reader.lift, skipValue_value hw' (hm.other hother) hend]
      rfl
    simp only [memberValue, hfind]
    exact .inl ⟨s, w'', within_afterColon_ok hw hskip _, hw'', hholds.other hother⟩
  · simp only [memberValue, hfind]
    have hlawful := h.lawful slot hslot
    rcases hholds slot hslot with ⟨hnone, hunset⟩ | ⟨b, t, honce, -, hset⟩
    · have hisSet : slot.field.isSet s = false := by
        simp only [Slot.field, Field.of, hunset, Option.isSome_none]
      simp only [hisSet, Bool.false_eq_true, if_false]
      rcases hm.known slot hslot hname with ⟨b, hspells⟩ | hfaulty
      · have hread : slot.field.read s ⟨w' ++ (m.2 ++ (w'' ++ rest)), none⟩ =
            .ok (slot.set b s, ⟨w'' ++ rest, none⟩) := by
          simp only [Slot.field, Field.of, Reader.map, hlawful.readBy.reads hspells hw' hend]
        exact .inl ⟨slot.set b s, w'', within_afterColon_ok hw hread _, hw'',
          hholds.set hlawful h.apart hslot hname hunset hspells⟩
      · obtain ⟨fault, hfault⟩ := hlawful.readBy.refuses hfaulty hw' hend
        have hread : slot.field.read s ⟨w' ++ (m.2 ++ (w'' ++ rest)), none⟩ = .error fault := by
          simp only [Slot.field, Field.of, Reader.map, hfault]
        obtain ⟨fault', hfault'⟩ := within_afterColon_error hw hread (.key m.1)
        refine .inr ⟨fault', hfault', slot, hslot, .inr ⟨m.2, ?_, hfaulty⟩⟩
        rw [← hname]
        exact mem_texts (List.mem_append_right _ List.mem_cons_self)
    · have hisSet : slot.field.isSet s = true := by
        simp only [Slot.field, Field.of, hset, Option.isSome_some]
      simp only [hisSet, if_true]
      refine .inr ⟨_, rfl, slot, hslot, .inl ?_⟩
      rw [texts_append, honce, ← hname, texts_singleton_self]
      exact Nat.le_refl 2

/-- One round of the loop: it stops there, or goes on with what the member stands for. -/
theorem members_member {r : Record σ α} (h : Implements slots r) (hholds : Holds slots ms s)
    {m : Member} {t w rest : Bytes} (hm : Readable slots m) (ht : MemberText m t) (hw : IsSpace w)
    (hrest : Delimited rest) (first : Bool) (b : UInt8) (fuel : Bytes) :
    (∃ fault, Reader.members r.fields (b :: fuel) first s
        ⟨w ++ (comma first ++ (t ++ rest)), none⟩ = .error fault ∧ AtFault slots (ms ++ [m])) ∨
      ∃ s' w', IsSpace w' ∧ Holds slots (ms ++ [m]) s' ∧
        Reader.members r.fields (b :: fuel) first s ⟨w ++ (comma first ++ (t ++ rest)), none⟩ =
          Reader.members r.fields fuel false s' ⟨w' ++ rest, none⟩ := by
  obtain ⟨hname, hw₁, hw₂, hw₃, hw₄⟩ := ht
  rename_i name n value w₁ w₂ w₃ w₄
  have hkey := nextKey_name hw hw₁ hname first (w₂ ++ 0x3a :: (w₃ ++ (value ++ (w₄ ++ rest))))
  have hround := members_of_nextKey hkey r.fields b fuel s
  have hreached := reached_memberValue h hholds hm hw₂ hw₃ hw₄ hrest
  simp only [List.append_assoc, List.cons_append]
  rw [hround]
  rcases hreached with ⟨s', w', hvalue, hw', hholds'⟩ | ⟨fault, hvalue, hfault⟩
  · exact .inr ⟨s', w', hw', hholds', by rw [hvalue]⟩
  · exact .inl ⟨fault, by rw [hvalue], hfault⟩

theorem reached_members {r : Record σ α} (h : Implements slots r) {ms' : List Member} {t : Bytes}
    (ht : MembersText ms' t) (hreadable : ∀ m ∈ ms', Readable slots m)
    (hholds : Holds slots ms s) (first : Bool) {w fuel : Bytes} (hw : IsSpace w)
    (hfuel : ms'.length ≤ fuel.length) (tail : Bytes) :
    Reached slots (ms ++ ms') (0x7d :: tail)
      (Reader.members r.fields fuel first s ⟨w ++ (comma first ++ (t ++ 0x7d :: tail)), none⟩) := by
  induction ht generalizing ms s first w fuel with
  | last hm =>
      cases fuel with
      | nil => simp at hfuel
      | cons b fuel =>
          have hend : Delimited (0x7d :: tail) := delimited_closing .curly tail
          have hstep := members_member h hholds (hreadable _ List.mem_cons_self) hm hw hend first b
            fuel
          rcases hstep with ⟨fault, hfault, hat⟩ | ⟨s', w', hw', hholds', hstep⟩
          · exact .inr ⟨fault, hfault, hat⟩
          · refine .inl ⟨s', w', ?_, hw', hholds'⟩
            rw [hstep, Reader.members]
            simp only [nextKey_close hw']
  | @more m ms' t ts hm _ ih =>
      cases fuel with
      | nil => simp at hfuel
      | cons b fuel =>
          obtain ⟨hreadable₁, hreadable'⟩ := List.forall_mem_cons.mp hreadable
          have hend : Delimited (0x2c :: (ts ++ 0x7d :: tail)) := delimited_comma _
          have hstep := members_member h hholds hreadable₁ hm hw hend first b fuel
          rw [List.append_assoc, List.cons_append, List.append_cons]
          rcases hstep with ⟨fault, hfault, hat⟩ | ⟨s', w', hw', hholds', hstep⟩
          · exact .inr ⟨fault, hfault, hat.append ms'⟩
          · rw [hstep]
            exact ih hreadable' hholds' false hw' (Nat.le_of_succ_le_succ hfuel)

theorem length_le_of_membersText {ms : List Member} {t : Bytes} (h : MembersText ms t) :
    ms.length ≤ t.length := by
  induction h with
  | last hm =>
      obtain ⟨⟩ := hm
      simp only [List.length_cons, List.length_nil, List.length_append]
      omega
  | more _ _ ih =>
      simp only [List.length_append, List.length_cons]
      omega

theorem reached_object {r : Record σ α} (h : Implements slots r) {t : Bytes}
    (ht : ObjectText ms t) (hreadable : ∀ m ∈ ms, Readable slots m) {w : Bytes} (hw : IsSpace w)
    (tail : Bytes) :
    ∃ rest, Reader.peek (w ++ (t ++ tail)) = .ok (0x7b, rest) ∧
      Reached slots ms (0x7d :: tail) (Reader.members r.fields rest true r.initial ⟨rest, none⟩) := by
  have hholds : Holds slots [] r.initial := .nil h.initial
  cases ht with
  | @empty w' hw' =>
      refine ⟨w' ++ 0x7d :: tail, ?_, .inl ⟨r.initial, w', ?_, hw', hholds⟩⟩
      · rw [peek_append hw, List.cons_append, peek_cons (by decide), List.append_assoc]
        rfl
      · rw [Reader.members]
        simp only [nextKey_close hw']
  | @members _ t ht =>
      have hfuel : ms.length ≤ (t ++ 0x7d :: tail).length := by
        rw [List.length_append]
        exact Nat.le_add_right_of_le (length_le_of_membersText ht)
      refine ⟨t ++ 0x7d :: tail, ?_, reached_members h ht hreadable hholds true .nil hfuel tail⟩
      rw [peek_append hw, List.cons_append, peek_cons (by decide), List.append_assoc]
      rfl

/-! ## The whole object -/

theorem record_of_reached {r : Record σ α} {rest tail : Bytes} {whole : Bytes}
    (hpeek : Reader.peek whole = .ok (0x7b, rest))
    (hreached : Reached slots ms (0x7d :: tail)
      (Reader.members r.fields rest true r.initial ⟨rest, none⟩)) :
    (∃ s, Holds slots ms s ∧ (∀ a, r.finish s = .ok a →
        Reader.record r ⟨whole, none⟩ = .ok (a, ⟨tail, none⟩)) ∧
      ∀ name, r.finish s = .error name → ∃ fault, Reader.record r ⟨whole, none⟩ = .error fault) ∨
    AtFault slots ms ∧ ∃ fault, Reader.record r ⟨whole, none⟩ = .error fault := by
  have hbracket : ¬ (0x7b : UInt8) = 0x5b := by decide
  rcases hreached with ⟨s, w, hmembers, hw, hholds⟩ | ⟨fault, hmembers, hat⟩
  · refine .inl ⟨s, hholds, fun a ha => ?_, fun name hname => ?_⟩
    · simp only [Reader.record, hpeek, if_neg hbracket, if_true, hmembers, Reader.conclude, ha,
        Reader.lift, Reader.endMap, skipBlank_append_cons hw (b := 0x7d) (by decide)]
      rfl
    · simp only [Reader.record, hpeek, if_neg hbracket, if_true, hmembers, Reader.conclude, hname]
      exact ⟨_, rfl⟩
  · refine .inr ⟨hat, fault, ?_⟩
    simp only [Reader.record, hpeek, if_neg hbracket, if_true, hmembers]

theorem mem_entryNames {slots : List (Slot σ α)} {name : String} :
    name ∈ (slots.map Slot.toEntry).map (·.name) ↔ ∃ slot ∈ slots, slot.name = name := by
  simp [List.mem_map]

theorem OthersAreValues.isValue {m : Member} (h : OthersAreValues (slots.map Slot.toEntry) ms)
    (hm : m ∈ ms) (hother : ∀ slot ∈ slots, m.1 ≠ slot.name) : IsValue m.2 := by
  apply h m hm
  rw [mem_entryNames]
  rintro ⟨slot, hslot, hname⟩
  exact hother slot hslot hname.symm

theorem Spells.readable {a : α} (h : Spells (slots.map Slot.toEntry) a ms) :
    ∀ m ∈ ms, Readable slots m := by
  refine fun m hm => ⟨fun slot hslot hname => ?_, h.other.isValue hm⟩
  have hmem : m.2 ∈ texts ms slot.name := hname ▸ mem_texts hm
  rcases h.entry slot.toEntry (List.mem_map_of_mem hslot) with ⟨hnone, -⟩ | ⟨t, honce, hspells⟩
  · rw [hnone] at hmem
    cases hmem
  · rw [honce, List.mem_singleton] at hmem
    exact .inl ⟨slot.part a, hmem ▸ hspells⟩

theorem Faulty.readable (h : Faulty (slots.map Slot.toEntry) ms) :
    ∀ m ∈ ms, Readable slots m := by
  refine fun m hm => ⟨fun slot hslot hname => ?_, h.other.isValue hm⟩
  have hmem : m.2 ∈ texts ms slot.name := hname ▸ mem_texts hm
  exact h.entry slot.toEntry (List.mem_map_of_mem hslot) m.2 hmem

/-- Members that stand for a value leave a partial result that is complete. -/
theorem Spells.found {a : α} (h : Spells (slots.map Slot.toEntry) a ms)
    (hlawful : ∀ slot ∈ slots, slot.Lawful) (hholds : Holds slots ms s) :
    ∀ slot ∈ slots, slot.found s = some (slot.part a) := by
  intro slot hslot
  rcases h.entry slot.toEntry (List.mem_map_of_mem hslot) with ⟨hnone, hdefault⟩ |
    ⟨t, honce, hspells⟩
  · rcases hholds slot hslot with ⟨-, hunset⟩ | ⟨b, t, honce, -, -⟩
    · rw [Slot.found, hunset, Option.none_or]
      exact hdefault
    · rw [hnone] at honce
      cases honce
  · rcases hholds slot hslot with ⟨hnone, -⟩ | ⟨b, t', honce', hspells', hset⟩
    · rw [honce] at hnone
      cases hnone
    · obtain rfl : t = t' := by simpa [honce] using honce'
      rw [Slot.found, hset, (hlawful slot hslot).readBy.eq_of_spells hspells' hspells]
      rfl

theorem Spells.not_atFault {a : α} (h : Spells (slots.map Slot.toEntry) a ms)
    (hlawful : ∀ slot ∈ slots, slot.Lawful) : ¬ AtFault slots ms := by
  rintro ⟨slot, hslot, hfault⟩
  rcases h.entry slot.toEntry (List.mem_map_of_mem hslot) with ⟨hnone, -⟩ | ⟨t, honce, hspells⟩
  · simp [hnone] at hfault
  · rw [honce] at hfault
    rcases hfault with htwice | ⟨t', ht', hfaulty⟩
    · simp at htwice
    · rw [List.mem_singleton] at ht'
      exact (hlawful slot hslot).readBy.not_faulty hspells (ht' ▸ hfaulty)

/-- A partial result of members that are at fault is not complete. -/
theorem Faulty.exists_not_found (h : Faulty (slots.map Slot.toEntry) ms)
    (hlawful : ∀ slot ∈ slots, slot.Lawful) (hholds : Holds slots ms s) :
    ∃ slot ∈ slots, slot.found s = none := by
  obtain ⟨e, he, hfault⟩ := h.fault
  obtain ⟨slot, hslot, rfl⟩ := List.mem_map.mp he
  rcases hholds slot hslot with ⟨hnone, hunset⟩ | ⟨b, t, honce, hspells, hset⟩
  · rcases hfault with htwice | ⟨-, hdefault⟩ | ⟨t, ht, -⟩
    · rw [hnone] at htwice
      cases htwice
    · exact ⟨slot, hslot, by rw [Slot.found, hunset, hdefault]; rfl⟩
    · rw [hnone] at ht
      cases ht
  · rcases hfault with htwice | ⟨hnone, -⟩ | ⟨t', ht', hfaulty⟩
    · rw [honce] at htwice
      simp at htwice
    · rw [honce] at hnone
      cases hnone
    · rw [honce, List.mem_singleton] at ht'
      exact absurd (ht' ▸ hfaulty) ((hlawful slot hslot).readBy.not_faulty hspells)

/-- An object is read in any layout, whatever follows it. -/
theorem Implements.readBy {r : Record σ α} (h : Implements slots r) :
    (Form.object (slots.map Slot.toEntry)).ReadBy (Reader.record r) fun _ => True where
  reads := by
    rintro a t w tail ⟨ms, ht, hspells⟩ hw -
    obtain ⟨rest, hpeek, hreached⟩ := reached_object h ht hspells.readable hw tail
    rcases record_of_reached hpeek hreached with ⟨s, hholds, hok, -⟩ | ⟨hat, -⟩
    · exact hok a (h.complete s a (hspells.found h.lawful hholds))
    · exact absurd hat (hspells.not_atFault h.lawful)
  refuses := by
    rintro t w tail ⟨ms, ht, hfaulty⟩ hw -
    obtain ⟨rest, hpeek, hreached⟩ := reached_object h ht hfaulty.readable hw tail
    rcases record_of_reached hpeek hreached with ⟨s, hholds, -, herror⟩ | ⟨-, hfault⟩
    · obtain ⟨slot, hslot, hnone⟩ := hfaulty.exists_not_found h.lawful hholds
      obtain ⟨name, hname⟩ := h.missing s slot hslot hnone
      exact herror name hname
    · exact hfault

/-! ## What is written -/

theorem memberText_written (m : String × String) :
    MemberText (m.1, encode m.2) (memberText m) := by
  have hmember : MemberText (m.1, encode m.2) _ :=
    .mk (stringText_quoted m.1) .nil .nil .nil .nil
  simpa [memberText] using hmember

theorem membersText_series (m : String × String) (ms : List (String × String)) :
    MembersText ((m :: ms).map fun m => (m.1, encode m.2))
      (series true ((m :: ms).map memberText)) := by
  induction ms generalizing m with
  | nil => simpa [series, comma] using MembersText.last (memberText_written m)
  | cons m' ms ih => simpa [series, comma] using MembersText.more (memberText_written m) (ih m')

theorem objectText_object (ms : List (String × String)) :
    ObjectText (ms.map fun m => (m.1, encode m.2)) (encode (object ms)) := by
  rw [encode_object]
  cases ms with
  | nil => exact .empty .nil
  | cons m ms => exact .members (membersText_series m ms)

/-- Whether each member is written for the entry at its place. -/
def Written (a : α) : List (Entry α) → List (String × String) → Prop :=
  List.Forall₂ fun e m => m.1 = e.name ∧ e.form.spells (e.part a) (encode m.2)

theorem Written.name_mem {a : α} {entries : List (Entry α)} {ms : List (String × String)}
    (h : Written a entries ms) : ∀ m ∈ ms, m.1 ∈ entries.map (·.name) := by
  induction h with
  | nil => simp
  | cons hm _ ih =>
      simp only [List.forall_mem_cons, List.map_cons, hm.1, List.mem_cons_self, true_and]
      exact fun m hmem => List.mem_cons_of_mem _ (ih m hmem)

theorem Written.texts {a : α} {entries : List (Entry α)} {ms : List (String × String)}
    (h : Written a entries ms) (hnodup : (entries.map (·.name)).Nodup) :
    ∀ e ∈ entries, ∃ t, texts (ms.map fun m => (m.1, encode m.2)) e.name = [t] ∧
      e.form.spells (e.part a) t := by
  induction h with
  | nil => simp
  | @cons e m entries ms hm hms ih =>
      obtain ⟨hnew, hnodup⟩ := List.nodup_cons.mp hnodup
      have hsplit : ∀ name, Json.texts ((m :: ms).map fun m => (m.1, encode m.2)) name =
          Json.texts [(m.1, encode m.2)] name ++
            Json.texts (ms.map fun m => (m.1, encode m.2)) name := fun name =>
        texts_append [_] _ name
      refine List.forall_mem_cons.mpr ⟨⟨encode m.2, ?_, hm.2⟩, fun e' he' => ?_⟩
      · have hnone : Json.texts (ms.map fun m => (m.1, encode m.2)) e.name = [] := by
          refine texts_eq_nil fun m' hm' heq => hnew ?_
          obtain ⟨m'', hm'', rfl⟩ := List.mem_map.mp hm'
          have hmem := Written.name_mem hms m'' hm''
          rwa [show m''.1 = e.name from heq] at hmem
        rw [hsplit, hnone, ← hm.1, texts_singleton_self (m.1, encode m.2), List.append_nil]
      · have hne : m.1 ≠ e'.name := by
          intro heq
          have hmem : e'.name ∈ entries.map (·.name) := List.mem_map_of_mem he'
          rw [← heq, hm.1] at hmem
          exact hnew hmem
        rw [hsplit, texts_singleton_of_ne hne, List.nil_append]
        exact ih hnodup e' he'

/-- Members in the order of the entries stand for the value they are written for. -/
theorem spells_object {a : α} {entries : List (Entry α)} {ms : List (String × String)}
    (hnodup : (entries.map (·.name)).Nodup) (h : Written a entries ms) :
    (Form.object entries).spells a (encode (object ms)) := by
  refine ⟨_, objectText_object ms, fun e he => .inr (h.texts hnodup e he), fun m hm hother => ?_⟩
  obtain ⟨m', hm', rfl⟩ := List.mem_map.mp hm
  exact absurd (h.name_mem m' hm') hother

/-- What is written of a value is read back if it is one of the texts of the value. -/
theorem Form.ReadBy.reads_object {F : Form α} {r : Reader α} (h : F.ReadBy r fun _ => True) {a : α}
    {ms : List (String × String)} (hspells : F.spells a (encode (Json.object ms))) :
    Reads r (Json.object ms) a where
  starts := by
    rw [encode_object]
    rfl
  reads _ _ := h.reads hspells .nil trivial

end BuilderRelay.Json
