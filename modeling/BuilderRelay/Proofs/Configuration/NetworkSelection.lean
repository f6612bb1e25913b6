import BuilderRelay.Configuration.Config
import BuilderRelay.Proofs.Configuration.Settings
import Mathlib.Data.List.Nodup
import Mathlib.Data.List.Perm.Subperm

/-!
# The network of a command line

Which network startup selects, told by what is written on the command line and by the environment
alone. The command line is refused if it selects two networks, so the selection, which counts the
networks once more, finds no conflict; a fork version from the environment is not counted.
-/

namespace BuilderRelay

open CommandLine (Setting Flag Switch TextOption Arguments Written Compatible)

namespace CommandLine

def Setting.forkVersion? : Setting → Option String
  | text .genesisForkVersion value => some value
  | _ => none

def Setting.network? : Setting → Option Network
  | switch .mainnet => some .mainnet
  | switch .kiln => some .kiln
  | switch .ropsten => some .ropsten
  | switch .sepolia => some .sepolia
  | _ => none

/-- The network that is selected: by a fork version from the command line or else from the
environment, or else by the name that is given. -/
def selection (settings : List Setting) (env : Environment) : Except StartupError Network :=
  match (settings.findSome? Setting.forkVersion?).or (env "GENESIS_FORK_VERSION") with
  | some text =>
      match ForkVersion.read (Text.trim text) with
      | .ok version => .ok (.custom version)
      | .error fault => .error (.invalidForkVersion text (.plain fault.message))
  | none =>
      match settings.findSome? Setting.network? with
      | some network => .ok network
      | none => .error .noNetworkSelected

theorem selection_ne_conflict (settings : List Setting) (env : Environment)
    (names : List String) : selection settings env ≠ .error (.conflictingNetworks names) := by
  intro h
  unfold selection at h
  split at h
  · split at h <;> cases h
  · split at h <;> cases h

theorem flag_eq_of_selectsNetwork {settings : List Setting} (h : Compatible settings)
    {s t : Setting} (hs : s ∈ settings) (ht : t ∈ settings) (hs' : s.flag.selectsNetwork)
    (ht' : t.flag.selectsNetwork) : s.flag = t.flag := by
  by_contra hne
  have hpair : [s.flag, t.flag].Nodup := by simp [hne]
  have hsubset : [s.flag, t.flag] ⊆ (settings.map Setting.flag).filter Flag.selectsNetwork := by
    intro flag hflag
    rw [List.mem_pair] at hflag
    rw [List.mem_filter]
    rcases hflag with rfl | rfl
    · exact ⟨List.mem_map_of_mem hs, hs'⟩
    · exact ⟨List.mem_map_of_mem ht, ht'⟩
  have hlength := (List.subperm_of_subset hpair hsubset).length_le
  have hfew := h.network
  rw [countNetworks, List.countP_eq_length_filter] at hfew
  simp only [List.length_cons, List.length_nil] at hlength
  omega

theorem eq_of_forkVersion? {s : Setting} {text : String} (h : s.forkVersion? = some text) :
    s = .text .genesisForkVersion text := by
  rcases s with s | ⟨t, value⟩ | ms | b
  · cases h
  · cases t <;> cases h
    rfl
  · cases h
  · cases h

theorem exists_switch_of_network? {s : Setting} {n : Network} (h : s.network? = some n) :
    ∃ x, s = .switch x ∧ s.flag.selectsNetwork := by
  rcases s with x | ⟨t, value⟩ | ms | b
  · cases x <;> cases h
    all_goals exact ⟨_, rfl, rfl⟩
  · cases h
  · cases h
  · cases h

theorem findSome?_network? {settings : List Setting} (h : Compatible settings) {n : Network} :
    settings.findSome? Setting.network? = some n ↔ ∃ s ∈ settings, s.network? = some n := by
  constructor
  · exact List.exists_of_findSome?_eq_some
  · rintro ⟨s, hs, hn⟩
    cases hfind : settings.findSome? Setting.network? with
    | none => exact absurd hn (by simp [List.findSome?_eq_none_iff.mp hfind s hs])
    | some m =>
        obtain ⟨t, ht, hm⟩ := List.exists_of_findSome?_eq_some hfind
        obtain ⟨x, rfl, hx⟩ := exists_switch_of_network? hn
        obtain ⟨y, rfl, hy⟩ := exists_switch_of_network? hm
        have hflag := flag_eq_of_selectsNetwork h hs ht hx hy
        cases hflag
        exact hm.symm.trans hn

/-- No network is given by its name beside a fork version. -/
theorem findSome?_network?_of_forkVersion? {settings : List Setting} (h : Compatible settings)
    {text : String} (htext : settings.findSome? Setting.forkVersion? = some text) :
    settings.findSome? Setting.network? = none := by
  obtain ⟨s, hs, hs'⟩ := List.exists_of_findSome?_eq_some htext
  obtain rfl := eq_of_forkVersion? hs'
  cases hfind : settings.findSome? Setting.network? with
  | none => rfl
  | some n =>
      obtain ⟨t, ht, hn⟩ := List.exists_of_findSome?_eq_some hfind
      obtain ⟨x, rfl, hx⟩ := exists_switch_of_network? hn
      have hflag := flag_eq_of_selectsNetwork h hs ht rfl hx
      cases hflag

theorem Arguments.Holds.texts_forkVersion {a : Arguments} {settings : List Setting}
    (h : a.Holds settings) :
    a.texts .genesisForkVersion = settings.findSome? Setting.forkVersion? := by
  cases hfind : settings.findSome? Setting.forkVersion? with
  | none =>
      rw [Option.eq_none_iff_forall_ne_some]
      intro text htext
      have hmem := (h.has_iff (.text .genesisForkVersion text)).mp htext
      cases List.findSome?_eq_none_iff.mp hfind _ hmem
  | some text =>
      obtain ⟨s, hs, hs'⟩ := List.exists_of_findSome?_eq_some hfind
      obtain rfl := eq_of_forkVersion? hs'
      exact (h.has_iff (.text .genesisForkVersion text)).mpr hs

end CommandLine

/-! ## Selecting -/

open CommandLine (selection)

theorem network_of_resolve {a : Arguments} {env : Environment} {c : Config}
    (h : Config.resolve a env = .ok c) :
    c.network = {
      custom := Config.customForkVersion a env
      mainnet := a.switches .mainnet
      kiln := a.switches .kiln
      ropsten := a.switches .ropsten
      sepolia := a.switches .sepolia } := by
  unfold Config.resolve at h
  split at h
  · cases h
  · cases h
    rfl

section

variable {a : Arguments} {env : Environment} {c : Config} {settings : List Setting}

theorem selects_iff (hc : Config.resolve a env = .ok c) (h : a.Holds settings) (n : Network) :
    c.network.selects n = true ↔ ∃ s ∈ settings, s.network? = some n := by
  rw [network_of_resolve hc]
  constructor
  · intro hs
    cases n with
    | mainnet => exact ⟨.switch .mainnet, (h.has_iff (.switch .mainnet)).mp hs, rfl⟩
    | kiln => exact ⟨.switch .kiln, (h.has_iff (.switch .kiln)).mp hs, rfl⟩
    | ropsten => exact ⟨.switch .ropsten, (h.has_iff (.switch .ropsten)).mp hs, rfl⟩
    | sepolia => exact ⟨.switch .sepolia, (h.has_iff (.switch .sepolia)).mp hs, rfl⟩
    | custom version => cases hs
  · rintro ⟨s, hs, hn⟩
    obtain ⟨x, rfl, -⟩ := CommandLine.exists_switch_of_network? hn
    have hx : a.switches x = true := (h.has_iff (.switch x)).mpr hs
    cases x <;> cases hn <;> exact hx

/-- The names that are selected are the one on the command line, if there is one. -/
theorem selectedNames_eq (hc : Config.resolve a env = .ok c) (h : a.Holds settings)
    (hcompatible : Compatible settings) :
    c.network.selectedNames = (settings.findSome? Setting.network?).toList := by
  have hselects : c.network.selects =
      fun n => decide (settings.findSome? Setting.network? = some n) := by
    funext n
    rw [Bool.eq_iff_iff, decide_eq_true_iff, selects_iff hc h,
      CommandLine.findSome?_network? hcompatible]
  rw [NetworkSources.selectedNames, hselects]
  cases hfind : settings.findSome? Setting.network? with
  | none => rfl
  | some n =>
      obtain ⟨s, -, hn⟩ := List.exists_of_findSome?_eq_some hfind
      obtain ⟨x, rfl, -⟩ := CommandLine.exists_switch_of_network? hn
      cases x <;> cases hn <;> rfl

theorem length_explicit_le (hc : Config.resolve a env = .ok c) (h : a.Holds settings)
    (hcompatible : Compatible settings) : c.network.explicit.length ≤ 1 := by
  have hnames := selectedNames_eq hc h hcompatible
  have hcustom : c.network.custom = Config.customForkVersion a env := by
    rw [network_of_resolve hc]
  rw [NetworkSources.explicit, hnames, hcustom, Config.customForkVersion, h.texts_forkVersion]
  cases hversion : settings.findSome? Setting.forkVersion? with
  | some text =>
      rw [CommandLine.findSome?_network?_of_forkVersion? hcompatible hversion]
      exact Nat.le_refl 1
  | none =>
      -- A fork version from the environment is no explicit selection.
      cases env "GENESIS_FORK_VERSION" <;>
        cases settings.findSome? Setting.network? <;> simp

theorem select_eq_selection (hc : Config.resolve a env = .ok c) (h : a.Holds settings)
    (hcompatible : Compatible settings) : c.network.select = selection settings env := by
  have hnames := selectedNames_eq hc h hcompatible
  have hcustom : c.network.custom = Config.customForkVersion a env := by
    rw [network_of_resolve hc]
  have hexplicit := length_explicit_le hc h hcompatible
  rw [NetworkSources.select, if_neg (Nat.not_lt_of_le hexplicit), hnames, hcustom,
    Config.customForkVersion, h.texts_forkVersion]
  unfold selection
  cases settings.findSome? Setting.forkVersion? with
  | some text =>
      cases hread : ForkVersion.read (Text.trim text) <;> simp only [Option.some_or, hread]
  | none =>
      cases env "GENESIS_FORK_VERSION" with
      | some text =>
          cases hread : ForkVersion.read (Text.trim text) <;>
            simp only [Option.map_some, Option.none_or, hread]
      | none => cases settings.findSome? Setting.network? <;> rfl

end

/-! ## The command line -/

/-- On a command line that is accepted at most one option selects a network. Startup then selects
what is written there or in the environment, and finds no conflict. -/
theorem commandLine_selects {words : List Bytes} {a : Arguments} {env : Environment} {c : Config}
    (hparse : CommandLine.parse words = .ok a) (hresolve : Config.resolve a env = .ok c) :
    (∃ settings, Written settings words) ∧
      ∀ settings, Written settings words →
        Compatible settings ∧ c.network.select = selection settings env ∧
          ∀ names, c.network.select ≠ .error (.conflictingNetworks names) := by
  refine ⟨CommandLine.written_of_parse hparse, ?_⟩
  intro settings hwritten
  obtain ⟨hcompatible, hholds⟩ := CommandLine.holds_of_parse hparse hwritten
  have hselect := select_eq_selection hresolve hholds hcompatible
  refine ⟨hcompatible, hselect, ?_⟩
  intro names
  rw [hselect]
  exact CommandLine.selection_ne_conflict settings env names

/-- A fork version in the environment comes before the name on the command line. -/
theorem kiln_selects_environment : ∃ a c,
    CommandLine.parse [Utf8.encode "--kiln"] = .ok a ∧
      Config.resolve a (fun name => if name = "GENESIS_FORK_VERSION" then some " 0xZZ" else none) =
        .ok c ∧
      c.network.select = .error (.invalidForkVersion " 0xZZ"
        (.plain "invalid hex character 'Z'")) := by
  obtain ⟨a, c, ha, hc⟩ : ∃ a c, CommandLine.parse [Utf8.encode "--kiln"] = .ok a ∧
      Config.resolve a (fun name => if name = "GENESIS_FORK_VERSION" then some " 0xZZ" else none) =
        .ok c := ⟨_, _, rfl, rfl⟩
  have hwritten : Written [.switch .kiln] [Utf8.encode "--kiln"] := by
    have hword : Utf8.encode "--kiln" = (Flag.switch .kiln).word := by decide
    rw [hword]
    exact .alone rfl rfl .nil
  obtain ⟨-, hselect, -⟩ := (commandLine_selects ha hc).2 [.switch .kiln] hwritten
  exact ⟨a, c, ha, hc, hselect⟩

end BuilderRelay
