import BuilderRelay.Proofs.Text.PrefixedHex
import BuilderRelay.Proofs.Text.Trimming
import BuilderRelay.Signing.Roots
import BuilderRelay.Startup.NetworkChoice

/-!
# The selected network

Which network is selected from any candidates. More than one explicit selection is a conflict,
whatever the custom fork version says; otherwise a custom version is selected if its text is one,
and only without one does a name count. `Selects` lists what may come of a selection, each with its
condition; the conditions exclude each other.
-/

namespace BuilderRelay

open Hex (Marked Prefixed Pairs)

namespace ForkVersion

/-- The text is eight digits behind a prefix, but for white space around it. -/
def IsText (text : String) : Prop :=
  ∃ core ds, Text.Trims text core ∧ Prefixed core ds ∧ ds.length = 8

/-- The eight digits of the text stand for the version. -/
def IsDenotedBy (v : ForkVersion) (text : String) : Prop :=
  ∃ core ds, Text.Trims text core ∧ Marked core ds ∧ ds.length = 8 ∧ Pairs ds v.bytes.toList

theorem read_trim_eq_ok_iff {text : String} {v : ForkVersion} :
    read (Text.trim text) = .ok v ↔ v.IsDenotedBy text := by
  rw [read_eq_ok_iff]
  constructor
  · rintro ⟨ds, hds, -, hpairs⟩
    have hlength := hpairs.length_eq
    rw [Vector.length_toList] at hlength
    exact ⟨_, ds, Text.trims_iff.mpr rfl, hds, hlength, hpairs⟩
  · rintro ⟨core, ds, hcore, hds, hlength, hpairs⟩
    rw [← Text.trims_iff.mp hcore]
    refine ⟨ds, hds, ?_, hpairs⟩
    rintro rfl
    cases hlength

theorem isText_iff {text : String} : IsText text ↔ ∃ v, read (Text.trim text) = .ok v := by
  rw [exists_read_eq_ok_iff]
  constructor
  · rintro ⟨core, ds, hcore, hds⟩
    exact ⟨ds, Text.trims_iff.mp hcore ▸ hds⟩
  · rintro ⟨ds, hds⟩
    exact ⟨_, ds, Text.trims_iff.mpr rfl, hds⟩

end ForkVersion

namespace NetworkSources

/-- The explicit selections by the names of their flags. -/
def selections (s : NetworkSources) : List String :=
  let candidates := [
    (s.custom.any (·.origin = .flag), "genesis-fork-version"),
    (s.mainnet, "mainnet"),
    (s.kiln, "kiln"),
    (s.ropsten, "ropsten"),
    (s.sepolia, "sepolia")]
  (candidates.filter (·.1)).map (·.2)

theorem map_name_selectedNames (s : NetworkSources) :
    s.selectedNames.map Network.name =
      ((Network.named.map fun n => (s.selects n, n.name)).filter (·.1)).map (·.2) := by
  rw [selectedNames, List.filter_map, List.map_map]
  rfl

theorem explicit_eq (s : NetworkSources) : s.explicit = s.selections := by
  rw [explicit, map_name_selectedNames]
  obtain ⟨custom, mainnet, kiln, ropsten, sepolia⟩ := s
  rcases custom with _ | ⟨value, origin⟩
  · rfl
  · cases origin <;> rfl

inductive Selects (s : NetworkSources) : Except StartupError Network → Prop
  | conflict : 1 < s.selections.length → Selects s (.error (.conflictingNetworks s.selections))
  | custom {c : CustomForkVersion} {v : ForkVersion} : s.selections.length ≤ 1 →
      s.custom = some c → v.IsDenotedBy c.value → Selects s (.ok (.custom v))
  | malformed {c : CustomForkVersion} {reason : Report} : s.selections.length ≤ 1 →
      s.custom = some c → ¬ ForkVersion.IsText c.value →
      Selects s (.error (.invalidForkVersion c.value reason))
  | name {n : Network} : s.custom = none → n ∈ Network.named → s.selections = [n.name] →
      Selects s (.ok n)
  | nothing : s.custom = none → s.selections = [] → Selects s (.error .noNetworkSelected)

variable {s : NetworkSources}

theorem select_of_conflict (h : 1 < s.selections.length) :
    s.select = .error (.conflictingNetworks s.selections) := by
  rw [select, explicit_eq, if_pos h]

theorem not_conflict (h : s.selections.length ≤ 1) : ¬ 1 < s.explicit.length := by
  rw [explicit_eq]
  exact Nat.not_lt_of_le h

theorem select_of_custom {c : CustomForkVersion} {v : ForkVersion} (h : s.selections.length ≤ 1)
    (hc : s.custom = some c) (hv : v.IsDenotedBy c.value) : s.select = .ok (.custom v) := by
  simp only [select, if_neg (not_conflict h), hc, ForkVersion.read_trim_eq_ok_iff.mpr hv]

theorem select_of_malformed {c : CustomForkVersion} (h : s.selections.length ≤ 1)
    (hc : s.custom = some c) (hv : ¬ ForkVersion.IsText c.value) :
    ∃ reason, s.select = .error (.invalidForkVersion c.value reason) := by
  cases hread : ForkVersion.read (Text.trim c.value) with
  | ok v => exact absurd (ForkVersion.isText_iff.mpr ⟨v, hread⟩) hv
  | error fault =>
      refine ⟨.plain fault.message, ?_⟩
      simp only [select, if_neg (not_conflict h), hc, hread]

/-- Without a custom version the explicit selections are the names. -/
theorem selections_of_none (h : s.custom = none) :
    s.selections = s.selectedNames.map Network.name := by
  rw [← explicit_eq, explicit, h]
  rfl

theorem mem_named_of_mem {n : Network} (h : n ∈ s.selectedNames) : n ∈ Network.named :=
  (List.mem_filter.mp h).1

theorem select_of_selectedNames {n : Network} (hc : s.custom = none) (hn : s.selectedNames = [n]) :
    s.select = .ok n := by
  have hfew : s.selections.length ≤ 1 := by
    rw [selections_of_none hc, hn]
    exact Nat.le_refl 1
  simp only [select, if_neg (not_conflict hfew), hc, hn]

theorem select_of_name {n : Network} (hc : s.custom = none) (hn : n ∈ Network.named)
    (hname : s.selections = [n.name]) : s.select = .ok n := by
  have hinjective : ∀ n ∈ Network.named, ∀ m ∈ Network.named, m.name = n.name → m = n := by decide
  rw [selections_of_none hc] at hname
  obtain ⟨m, hm, hmn⟩ := List.map_eq_singleton_iff.mp hname
  have hmem : m ∈ s.selectedNames := by
    rw [hm]
    exact List.mem_cons_self
  rw [← hinjective n hn m (mem_named_of_mem hmem) hmn]
  exact select_of_selectedNames hc hm

theorem select_of_nothing (hc : s.custom = none) (h : s.selections = []) :
    s.select = .error .noNetworkSelected := by
  have hnames : s.selectedNames = [] := by
    rw [selections_of_none hc] at h
    exact List.map_eq_nil_iff.mp h
  have hfew : s.selections.length ≤ 1 := by
    rw [h]
    exact Nat.zero_le 1
  simp only [select, if_neg (not_conflict hfew), hc, hnames]

/-- One of the conditions holds. -/
theorem selects_select (s : NetworkSources) : s.Selects s.select := by
  by_cases hmany : 1 < s.selections.length
  · rw [select_of_conflict hmany]
    exact .conflict hmany
  have hfew := Nat.le_of_not_lt hmany
  cases hc : s.custom with
  | some c =>
      by_cases htext : ForkVersion.IsText c.value
      · obtain ⟨v, hv⟩ := ForkVersion.isText_iff.mp htext
        rw [ForkVersion.read_trim_eq_ok_iff] at hv
        rw [select_of_custom hfew hc hv]
        exact .custom hfew hc hv
      · obtain ⟨reason, hreason⟩ := select_of_malformed hfew hc htext
        rw [hreason]
        exact .malformed hfew hc htext
  | none =>
      have hselections := selections_of_none hc
      match hnames : s.selectedNames with
      | [] =>
          rw [hnames] at hselections
          rw [select_of_nothing hc hselections]
          exact .nothing hc hselections
      | [n] =>
          rw [hnames] at hselections
          rw [select_of_selectedNames hc hnames]
          exact .name hc (mem_named_of_mem (by rw [hnames]; exact List.mem_cons_self)) hselections
      | n :: m :: names =>
          rw [hselections, hnames] at hmany
          simp at hmany

end NetworkSources

/-- Conflicts come first, then the custom version, then the name. A custom version that a known
network has makes no difference to what is signed. -/
theorem network_selection (s : NetworkSources) :
    (∀ names, s.select = .error (.conflictingNetworks names) ↔
      names = s.selections ∧ 1 < s.selections.length) ∧
    (∀ v, s.select = .ok (.custom v) ↔ s.selections.length ≤ 1 ∧
      ∃ c, s.custom = some c ∧ v.IsDenotedBy c.value) ∧
    (∀ text, (∃ reason, s.select = .error (.invalidForkVersion text reason)) ↔
      s.selections.length ≤ 1 ∧
        ∃ c, s.custom = some c ∧ text = c.value ∧ ¬ ForkVersion.IsText c.value) ∧
    (∀ n ∈ Network.named, s.select = .ok n ↔ s.custom = none ∧ s.selections = [n.name]) ∧
    (s.select = .error .noNetworkSelected ↔ s.custom = none ∧ s.selections = []) ∧
    (∀ c n, s.selections.length ≤ 1 → s.custom = some c →
      (Network.forkVersion n).IsDenotedBy c.value →
      ∃ m, s.select = .ok m ∧ m.forkVersion = n.forkVersion ∧
        Signing.builderDomain m.forkVersion = Signing.builderDomain n.forkVersion) := by
  have hselects := s.selects_select
  refine ⟨?_, ?_, ?_, ?_, ?_, ?_⟩
  · intro names
    constructor
    · intro h
      rw [h] at hselects
      cases hselects with
      | conflict hmany => exact ⟨rfl, hmany⟩
    · rintro ⟨rfl, hmany⟩
      exact NetworkSources.select_of_conflict hmany
  · intro v
    constructor
    · intro h
      rw [h] at hselects
      cases hselects with
      | custom hfew hc hv => exact ⟨hfew, _, hc, hv⟩
      | name _ hn _ => exact absurd hn (by simp [Network.named])
    · rintro ⟨hfew, c, hc, hv⟩
      exact NetworkSources.select_of_custom hfew hc hv
  · intro text
    constructor
    · rintro ⟨reason, h⟩
      rw [h] at hselects
      cases hselects with
      | malformed hfew hc htext => exact ⟨hfew, _, hc, rfl, htext⟩
    · rintro ⟨hfew, c, hc, rfl, htext⟩
      exact NetworkSources.select_of_malformed hfew hc htext
  · intro n hn
    constructor
    · intro h
      rw [h] at hselects
      cases hselects with
      | custom => exact absurd hn (by simp [Network.named])
      | name hc _ hname => exact ⟨hc, hname⟩
    · rintro ⟨hc, hname⟩
      exact NetworkSources.select_of_name hc hn hname
  · constructor
    · intro h
      rw [h] at hselects
      cases hselects with
      | nothing hc hnone => exact ⟨hc, hnone⟩
    · rintro ⟨hc, hnone⟩
      exact NetworkSources.select_of_nothing hc hnone
  · intro c n hfew hc hv
    exact ⟨_, NetworkSources.select_of_custom hfew hc hv, rfl, rfl⟩

/-- A custom version from the environment, written with spaces and in upper case, beside a name. -/
def kilnBesideMainnet : NetworkSources :=
  ⟨some ⟨"\u3000 0X70000069\n", .environment⟩, true, false, false, false⟩

theorem kiln_selected_by_version :
    kilnBesideMainnet.selections.length ≤ 1 ∧
    ForkVersion.kiln.IsDenotedBy "\u3000 0X70000069\n" ∧
    (∃ m, kilnBesideMainnet.select = .ok m ∧ m.forkVersion = ForkVersion.kiln ∧
      Signing.builderDomain m.forkVersion = Signing.builderDomain ForkVersion.kiln) ∧
    ∀ custom, NetworkSources.select ⟨custom, false, true, false, false⟩ = .ok .kiln ↔
      custom = none ∧ NetworkSources.selections ⟨custom, false, true, false, false⟩ = ["kiln"] := by
  have hfew : kilnBesideMainnet.selections.length ≤ 1 := by decide
  have hdenoted : ForkVersion.kiln.IsDenotedBy "\u3000 0X70000069\n" :=
    ForkVersion.read_trim_eq_ok_iff.mp rfl
  obtain ⟨-, -, -, -, -, hsame⟩ := network_selection kilnBesideMainnet
  refine ⟨hfew, hdenoted, hsame _ .kiln hfew rfl hdenoted, ?_⟩
  intro custom
  exact (network_selection ⟨custom, false, true, false, false⟩).2.2.2.1 .kiln (by decide)

end BuilderRelay
