import BuilderRelay.Proofs.Relay.Conservation
import Mathlib.Data.List.Nodup

/-!
# What was counted

A run counts labels one after the other, each in a family. After the run the counter of a family is
the table of its labels: in order, each with how often it was counted. There is one such table only,
so that nothing is left of the order in which labels were counted.
-/

namespace BuilderRelay

namespace Counter

/-- The labels that were counted are in order, each with how often. -/
structure Tabulates (c : Counter) (counted : List (List String)) : Prop where
  ordered : c.Ordered
  positive : ∀ sample ∈ c, 0 < sample.2
  value : ∀ labels, c.value labels = counted.count labels

namespace Tabulates

variable {c d : Counter} {counted other : List (List String)} {labels : List String} {n : Nat}

theorem nil : Tabulates [] [] := ⟨.nil, List.forall_mem_nil _, fun _ => rfl⟩

theorem mem_iff (h : c.Tabulates counted) :
    (labels, n) ∈ c ↔ 0 < n ∧ n = counted.count labels := by
  constructor
  · intro hmem
    exact ⟨h.positive _ hmem, (value_of_mem h.ordered hmem).symm.trans (h.value labels)⟩
  · rintro ⟨hpos, rfl⟩
    rw [← h.value labels] at hpos ⊢
    exact mem_of_value_pos hpos

theorem increment (h : c.Tabulates counted) (labels : List String) :
    (c.increment labels).Tabulates (counted ++ [labels]) := by
  have hordered := h.ordered.increment labels
  refine ⟨hordered, fun sample hsample => ?_, fun other => ?_⟩
  · have hvalue := value_of_mem hordered hsample
    rw [value_increment h.ordered] at hvalue
    rcases mem_increment hsample with heq | ⟨old, hold, heq⟩
    · rw [if_pos heq] at hvalue
      omega
    · have hpos := h.positive old hold
      have hprior := value_of_mem h.ordered hold
      rw [heq] at hprior
      omega
  · rw [value_increment h.ordered, h.value, List.count_append, List.count_singleton]
    simp only [beq_iff_eq, @eq_comm _ other]

theorem countOutcomes (h : c.Tabulates counted) (outcomes : List Metrics.RegistrationOutcome) :
    (Metrics.countOutcomes outcomes c).Tabulates (counted ++ outcomes.map fun o => [o.name]) := by
  induction outcomes generalizing c counted with
  | nil => rwa [List.map_nil, List.append_nil]
  | cons o outcomes ih =>
      have hrest := ih (h.increment [o.name])
      rwa [List.append_assoc] at hrest

theorem eq_nil_iff (h : c.Tabulates counted) : c = [] ↔ counted = [] := by
  constructor
  · rintro rfl
    refine List.eq_nil_iff_forall_not_mem.mpr fun labels hlabels => ?_
    exact absurd (h.mem_iff.mpr ⟨List.count_pos_iff.mpr hlabels, rfl⟩) List.not_mem_nil
  · rintro rfl
    refine List.eq_nil_iff_forall_not_mem.mpr fun sample hsample => ?_
    have hpos := h.positive sample hsample
    have hzero := (h.mem_iff.mp hsample).2
    rw [List.count_nil] at hzero
    omega

theorem mem_counted (h : c.Tabulates counted) (hmem : (labels, n) ∈ c) : labels ∈ counted := by
  obtain ⟨hpos, hn⟩ := h.mem_iff.mp hmem
  exact List.count_pos_iff.mp (hn ▸ hpos)

theorem nodup (h : c.Tabulates counted) : c.Nodup := by
  refine List.Pairwise.imp (fun {a b} hlt => ?_) h.ordered
  rintro rfl
  exact List.lt_irrefl _ hlt

/-- Tables of the same values are the same. -/
theorem eq_of_value (hc : c.Tabulates counted) (hd : d.Tabulates other)
    (h : ∀ labels, c.value labels = d.value labels) : c = d := by
  have hperm : c.Perm d := by
    refine (List.perm_ext_iff_of_nodup hc.nodup hd.nodup).mpr fun sample => ?_
    rw [hc.mem_iff, hd.mem_iff, ← hc.value, ← hd.value, h]
  exact hperm.eq_of_pairwise (fun a b _ _ hab hba => absurd (List.lt_trans hab hba)
    (List.lt_irrefl _)) hc.ordered hd.ordered

end Tabulates

end Counter

namespace Metrics

/-- Labels that are counted once more in a family. -/
structure Tick where
  family : String
  labels : List String
  deriving DecidableEq, Repr

/-- The labels that were counted in a family, in the order of counting. -/
def Family.counted (f : Family) (ticks : List Tick) : List (List String) :=
  (ticks.filter (·.family = f.name)).map (·.labels)

theorem Family.counted_append (f : Family) (ticks later : List Tick) :
    f.counted (ticks ++ later) = f.counted ticks ++ f.counted later := by
  simp only [counted, List.filter_append, List.map_append]

/-- What is counted for a request that reaches its handler. -/
def requestTicks (e : Endpoint) (outcomes : List RegistrationOutcome) (status : Nat) : List Tick :=
  ⟨"http_requests_total", endpointLabels e⟩ ::
    (outcomes.map (fun o => ⟨"validator_registrations_total", [o.name]⟩) ++
      [⟨"http_request_duration_seconds", endpointLabels e⟩,
        ⟨"http_responses_total", endpointLabels e ++ [toString status]⟩])

def Tabulates (m : Metrics) (ticks : List Tick) : Prop :=
  ∀ f ∈ families, (f.counter m).Tabulates (f.counted ticks)

theorem forall_families {P : Family → Prop} :
    (∀ f ∈ families, P f) ↔ P families[0] ∧ P families[1] ∧ P families[2] ∧ P families[3] := by
  simp [families]

theorem counted_requestTicks (e : Endpoint) (outcomes : List RegistrationOutcome) (status : Nat) :
    let ticks := requestTicks e outcomes status
    families[0].counted ticks = [endpointLabels e] ∧
    families[1].counted ticks = [endpointLabels e] ∧
    families[2].counted ticks = [endpointLabels e ++ [toString status]] ∧
    families[3].counted ticks = outcomes.map fun o => [o.name] := by
  simp [Family.counted, requestTicks, families, List.filter_map, Function.comp_def]

theorem Tabulates.counted {m : Metrics} {ticks : List Tick} (h : m.Tabulates ticks) (e : Endpoint)
    (outcomes : List RegistrationOutcome) (status : Nat) :
    (m.counted e outcomes status).Tabulates (ticks ++ requestTicks e outcomes status) := by
  obtain ⟨hlatencies, hrequests, hresponses, hregistrations⟩ := forall_families.mp h
  obtain ⟨hlatency, hrequest, hresponse, hregistration⟩ := counted_requestTicks e outcomes status
  rw [counted_eq]
  refine forall_families.mpr ⟨?_, ?_, ?_, ?_⟩
  · rw [Family.counted_append, hlatency]
    exact hlatencies.increment _
  · rw [Family.counted_append, hrequest]
    exact hrequests.increment _
  · rw [Family.counted_append, hresponse]
    exact hresponses.increment _
  · rw [Family.counted_append, hregistration]
    exact hregistrations.countOutcomes outcomes

/-- There is a value for each of the family's labels. -/
def Tick.Fits (t : Tick) : Prop :=
  ∀ f ∈ families, t.family = f.name → t.labels.length = f.labels.length

theorem fits_requestTicks {e : Endpoint} {outcomes : List RegistrationOutcome} {status : Nat}
    {t : Tick} (h : t ∈ requestTicks e outcomes status) : t.Fits := by
  rcases List.mem_cons.mp h with rfl | h
  · exact forall_families.mpr (by simp [families, endpointLabels])
  · rcases List.mem_append.mp h with h | h
    · obtain ⟨o, -, rfl⟩ := List.mem_map.mp h
      exact forall_families.mpr (by simp [families])
    · rcases List.mem_pair.mp h with rfl | rfl
      · exact forall_families.mpr (by simp [families, endpointLabels])
      · exact forall_families.mpr (by simp [families, endpointLabels])

end Metrics

/-! ## Runs -/

namespace Relay

open Metrics (Tick requestTicks)

variable (bls : Bls.Scheme) (relay : Relay)

/-- What is counted when something happens to a relay. -/
def stepTicks (event : RelayEvent) (s : RelayState) : List Tick :=
  match event.request? with
  | none => []
  | some r =>
      let seen := (answer bls relay r s).2
      match relay.endpoint? r with
      | none => []
      | some e => requestTicks e (outcomes s e seen) seen.response.status

/-- What is counted in a run, in the order of counting. -/
def ticks : List RelayEvent → RelayState → List Tick
  | [], _ => []
  | event :: events, s => stepTicks bls relay event s ++ ticks events (step bls relay event s).1

variable {bls relay} {s : RelayState}

theorem fits_stepTicks {event : RelayEvent} {t : Tick} (h : t ∈ stepTicks bls relay event s) :
    t.Fits := by
  unfold stepTicks at h
  split at h
  · cases h
  · split at h
    · cases h
    · exact Metrics.fits_requestTicks h

theorem fits_ticks {events : List RelayEvent} {t : Tick} (h : t ∈ ticks bls relay events s) :
    t.Fits := by
  induction events generalizing s with
  | nil => cases h
  | cons event events ih =>
      rcases List.mem_append.mp h with hnow | hlater
      · exact fits_stepTicks hnow
      · exact ih hlater

end Relay

namespace Metrics.Tabulates

variable {s : RelayState} {ticks : List Tick}

theorem empty : Metrics.empty.Tabulates [] :=
  forall_families.mpr ⟨.nil, .nil, .nil, .nil⟩

theorem step (bls : Bls.Scheme) (relay : Relay) (h : s.metrics.Tabulates ticks)
    (event : RelayEvent) :
    (relay.step bls event s).1.metrics.Tabulates (ticks ++ relay.stepTicks bls event s) := by
  cases event with
  | fail m script => simpa [Relay.step, Relay.stepTicks, RelayEvent.request?] using h
  | heal m => simpa [Relay.step, Relay.stepTicks, RelayEvent.request?] using h
  | request r =>
      simp only [Relay.step, Relay.stepTicks, RelayEvent.request?]
      cases hw : relay.work? r with
      | none =>
          rw [Relay.answer_state_of_no_work hw, Relay.endpoint?, hw]
          simpa using h
      | some w =>
          rw [Relay.metrics_answer_of_work hw, Relay.endpoint?_of_work hw]
          exact h.counted w.endpoint _ _

theorem run (bls : Bls.Scheme) (relay : Relay) (h : s.metrics.Tabulates ticks)
    (events : List RelayEvent) :
    (relay.run bls events s).1.metrics.Tabulates (ticks ++ relay.ticks bls events s) := by
  induction events generalizing s ticks with
  | nil => simpa [Relay.ticks, Relay.run] using h
  | cons event events ih =>
      have hnext := ih (h.step bls relay event)
      rwa [List.append_assoc] at hnext

end Metrics.Tabulates

end BuilderRelay
