import BuilderRelay.Proofs.Text.Numerals
import BuilderRelay.Relay.Metrics

/-!
# What counters count

An increment counts its own labels once more and no others. That needs the labels to be in order,
because an increment stops at the first labels that are not before its own; the order is kept. A
total over all labels with a common start does not depend on the order.
-/

namespace BuilderRelay

namespace Counter

/-- The labels are in order, and none of them is there twice. -/
def Ordered (c : Counter) : Prop := c.Pairwise fun a b => a.1 < b.1

/-- The sum over all labels that begin with `start`. -/
def total (start : List String) : Counter → Nat
  | [] => 0
  | sample :: c => (if sample.1.take start.length = start then sample.2 else 0) + total start c

variable {labels other : List String} {c : Counter}

theorem lt_of_not_lt_of_ne (hlt : ¬ labels < other) (hne : labels ≠ other) : other < labels := by
  by_cases h : other < labels
  · exact h
  · exact absurd (List.le_antisymm (List.not_lt.mp h) (List.not_lt.mp hlt)) hne

/-! ## Values -/

theorem value_cons (labels other : List String) (n : Nat) (c : Counter) :
    value labels ((other, n) :: c) = if labels = other then n else value labels c := by
  by_cases h : labels = other
  · simp [value, h]
  · have hbeq : (labels == other) = false := beq_eq_false_iff_ne.mpr h
    simp [value, List.lookup_cons, hbeq, h]

theorem value_eq_zero (h : ∀ sample ∈ c, labels < sample.1) : value labels c = 0 := by
  induction c with
  | nil => rfl
  | cons sample c ih =>
      obtain ⟨hhead, htail⟩ := List.forall_mem_cons.mp h
      have hne : labels ≠ sample.1 := fun heq => List.lt_irrefl labels (heq ▸ hhead)
      rw [value_cons, if_neg hne, ih htail]

theorem mem_of_value_pos (h : 0 < value labels c) : (labels, value labels c) ∈ c := by
  induction c with
  | nil => exact absurd h (Nat.lt_irrefl 0)
  | cons sample c ih =>
      rw [value_cons] at h ⊢
      by_cases heq : labels = sample.1
      · rw [if_pos heq, heq]
        exact List.mem_cons_self
      · rw [if_neg heq] at h ⊢
        exact List.mem_cons_of_mem _ (ih h)

theorem value_of_mem {n : Nat} (h : c.Ordered) (hmem : (labels, n) ∈ c) : c.value labels = n := by
  induction c with
  | nil => cases hmem
  | cons sample c ih =>
      obtain ⟨hhead, htail⟩ := List.pairwise_cons.mp h
      rw [value_cons]
      rcases List.mem_cons.mp hmem with rfl | hmem
      · exact if_pos rfl
      · have hlt : sample.1 < labels := hhead _ hmem
        have hne : labels ≠ sample.1 := fun heq => List.lt_irrefl labels (heq ▸ hlt)
        rw [if_neg hne, ih htail hmem]

/-! ## Increments -/

theorem mem_increment {sample : List String × Nat} (h : sample ∈ increment labels c) :
    sample.1 = labels ∨ ∃ old ∈ c, old.1 = sample.1 := by
  induction c with
  | nil => exact .inl (by rw [List.mem_singleton.mp h])
  | cons old c ih =>
      rw [increment] at h
      split at h
      · rcases List.mem_cons.mp h with rfl | hmem
        · exact .inr ⟨old, List.mem_cons_self, rfl⟩
        · exact .inr ⟨sample, List.mem_cons_of_mem _ hmem, rfl⟩
      · split at h
        · rcases List.mem_cons.mp h with rfl | hmem
          · exact .inl rfl
          · exact .inr ⟨sample, hmem, rfl⟩
        · rcases List.mem_cons.mp h with rfl | hmem
          · exact .inr ⟨_, List.mem_cons_self, rfl⟩
          · obtain heq | ⟨old', hold, heq⟩ := ih hmem
            · exact .inl heq
            · exact .inr ⟨old', List.mem_cons_of_mem _ hold, heq⟩

theorem Ordered.increment (h : c.Ordered) (labels : List String) :
    (c.increment labels).Ordered := by
  induction c with
  | nil => exact List.pairwise_singleton _ _
  | cons old c ih =>
      obtain ⟨hhead, htail⟩ := List.pairwise_cons.mp h
      rw [Counter.increment]
      split
      · exact List.pairwise_cons.mpr ⟨hhead, htail⟩
      · rename_i hne
        split
        · rename_i hlt
          refine List.pairwise_cons.mpr ⟨fun sample hmem => ?_, h⟩
          rcases List.mem_cons.mp hmem with rfl | hmem
          · exact hlt
          · exact List.lt_trans hlt (hhead sample hmem)
        · rename_i hlt
          refine List.pairwise_cons.mpr ⟨fun sample hmem => ?_, ih htail⟩
          obtain heq | ⟨old', hold, heq⟩ := mem_increment hmem
          · exact heq ▸ lt_of_not_lt_of_ne hlt hne
          · exact heq ▸ hhead old' hold

theorem value_increment (h : c.Ordered) (labels other : List String) :
    (c.increment labels).value other = c.value other + if other = labels then 1 else 0 := by
  induction c with
  | nil =>
      rw [increment, value_cons]
      exact (Nat.zero_add _).symm
  | cons old c ih =>
      obtain ⟨hhead, htail⟩ := List.pairwise_cons.mp h
      rw [increment]
      split
      · rename_i heq
        rw [value_cons, value_cons, heq]
        by_cases hother : other = old.1 <;> simp [hother]
      · rename_i hne
        split
        · -- The labels come before all that are there, so they had not been counted.
          rename_i hlt
          have hzero : value labels (old :: c) = 0 := by
            refine value_eq_zero fun sample hmem => ?_
            rcases List.mem_cons.mp hmem with rfl | hmem
            · exact hlt
            · exact List.lt_trans hlt (hhead sample hmem)
          rw [value_cons]
          by_cases hother : other = labels
          · rw [if_pos hother, if_pos hother, hother, hzero]
          · rw [if_neg hother, if_neg hother, Nat.add_zero]
        · rw [value_cons, value_cons, ih htail]
          by_cases hother : other = old.1
          · have hne' : other ≠ labels := fun heq => hne (heq.symm.trans hother)
            rw [if_pos hother, if_pos hother, if_neg hne', Nat.add_zero]
          · rw [if_neg hother, if_neg hother]

theorem total_increment (start labels : List String) (c : Counter) :
    (c.increment labels).total start =
      c.total start + if labels.take start.length = start then 1 else 0 := by
  induction c with
  | nil =>
      simp only [increment, total, Nat.zero_add, Nat.add_zero]
  | cons old c ih =>
      rw [increment]
      split
      · rename_i heq
        rw [total, total, heq]
        by_cases h : old.1.take start.length = start
        · simp only [if_pos h]
          omega
        · simp only [if_neg h]
          omega
      · split
        · rw [total]
          exact Nat.add_comm _ _
        · rw [total, total, ih, Nat.add_assoc]

end Counter

/-! ## The labels that are counted -/

namespace Metrics

theorem endpointLabels_inj {e f : Endpoint} : endpointLabels e = endpointLabels f ↔ e = f := by
  cases e <;> cases f <;> decide

theorem responseLabels_inj {e f : Endpoint} {status code : Nat} :
    endpointLabels e ++ [toString status] = endpointLabels f ++ [toString code] ↔
      e = f ∧ status = code := by
  constructor
  · intro h
    have hlength : (endpointLabels e).length = (endpointLabels f).length := rfl
    obtain ⟨hlabels, hstatus⟩ := List.append_inj h hlength
    exact ⟨endpointLabels_inj.mp hlabels, Text.toString_injective (List.singleton_inj.mp hstatus)⟩
  · rintro ⟨rfl, rfl⟩
    rfl

theorem take_responseLabels {e f : Endpoint} {status : Nat} :
    (endpointLabels f ++ [toString status]).take (endpointLabels e).length = endpointLabels e ↔
      e = f := by
  have htake : (endpointLabels f ++ [toString status]).take (endpointLabels e).length =
      endpointLabels f := rfl
  rw [htake, endpointLabels_inj]
  exact eq_comm

end Metrics

end BuilderRelay
