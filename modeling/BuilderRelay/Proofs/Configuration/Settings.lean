import BuilderRelay.Proofs.Configuration.Occurrences

/-!
# The settings of a command line

Arguments hold settings if they have just those, and no option comes twice. One setting after the
other is taken as long as its option is new, so a command line is accepted if and only if its options
are different and at most one of them selects a network; then the arguments hold what is written.
-/

namespace BuilderRelay.CommandLine

namespace Arguments

def Has (a : Arguments) : Setting → Prop
  | .switch s => a.switches s = true
  | .text t value => a.texts t = some value
  | .wait ms => a.waitMs = some ms
  | .json b => a.json = some b

structure Holds (a : Arguments) (settings : List Setting) : Prop where
  given : a.given = settings.map Setting.flag
  nodup : (settings.map Setting.flag).Nodup
  has_iff : ∀ setting, a.Has setting ↔ setting ∈ settings

theorem given_apply (setting : Setting) (a : Arguments) :
    (setting.apply a).given = a.given ++ [setting.flag] := by
  cases setting <;> rfl

/-- A setting replaces what there was of its option. -/
theorem has_apply_of_eq {setting other : Setting} (h : other.flag = setting.flag)
    (a : Arguments) : (setting.apply a).Has other ↔ other = setting := by
  cases setting <;> cases other <;>
    simp_all [Setting.flag, Has, Setting.apply, setSwitch, setText, eq_comm]

theorem has_apply_of_ne {setting other : Setting} (h : other.flag ≠ setting.flag)
    (a : Arguments) : (setting.apply a).Has other ↔ a.Has other := by
  cases setting <;> cases other <;>
    simp_all [Setting.flag, Has, Setting.apply, setSwitch, setText]

theorem holds_none : none.Holds [] where
  given := rfl
  nodup := .nil
  has_iff setting := by cases setting <;> simp [Has, none]

theorem Holds.apply {a : Arguments} {settings : List Setting} (h : a.Holds settings)
    {setting : Setting} (hnew : setting.flag ∉ a.given) :
    (setting.apply a).Holds (settings ++ [setting]) := by
  rw [h.given] at hnew
  constructor
  · rw [given_apply, h.given, List.map_append]
    rfl
  · rw [List.map_append, List.nodup_append]
    refine ⟨h.nodup, by simp, ?_⟩
    intro flag hflag other hmem heq
    rw [List.map_singleton, List.mem_singleton] at hmem
    exact hnew (hmem ▸ heq ▸ hflag)
  · intro other
    rw [List.mem_append, List.mem_singleton]
    by_cases hflag : other.flag = setting.flag
    · have hnot : other ∉ settings := by
        intro hmem
        exact hnew (hflag ▸ List.mem_map_of_mem hmem)
      simp only [has_apply_of_eq hflag, hnot, false_or]
    · have hne : other ≠ setting := by
        rintro rfl
        exact hflag rfl
      simp only [has_apply_of_ne hflag, h.has_iff, hne, or_false]

end Arguments

theorem not_nodup_of_mem {settings before : List Setting} {setting : Setting}
    (h : setting.flag ∈ before.map Setting.flag) :
    ¬ ((before ++ setting :: settings).map Setting.flag).Nodup := by
  intro hnodup
  rw [List.map_append, List.map_cons] at hnodup
  exact (List.nodup_append.mp hnodup).2.2 _ h _ List.mem_cons_self rfl

/-- Settings are all taken, or stopped at because an option comes twice. -/
theorem placeAll_cases {settings before : List Setting} {a : Arguments} (h : a.Holds before) :
    (∃ b, placeAll settings a = .ok b ∧ b.Holds (before ++ settings)) ∨
      (∃ flag, placeAll settings a = .error (.repeated flag)) ∧
        ¬ ((before ++ settings).map Setting.flag).Nodup := by
  induction settings generalizing before a with
  | nil =>
      left
      exact ⟨a, rfl, by simpa using h⟩
  | cons setting settings ih =>
      by_cases hold : setting.flag ∈ a.given
      · right
        refine ⟨⟨setting.flag, ?_⟩, not_nodup_of_mem (h.given ▸ hold)⟩
        rw [placeAll, place, if_pos hold]
        rfl
      · have hnext : placeAll (setting :: settings) a = placeAll settings (setting.apply a) := by
          rw [placeAll, place, if_neg hold]
          rfl
        rw [hnext, List.append_cons]
        exact ih (h.apply hold)

/-- How many of the settings select a network. -/
def countNetworks (settings : List Setting) : Nat :=
  (settings.map Setting.flag).countP Flag.selectsNetwork

/-- Settings that may be given together. -/
structure Compatible (settings : List Setting) : Prop where
  nodup : (settings.map Setting.flag).Nodup
  network : countNetworks settings ≤ 1

theorem checkNetworks_cases {a : Arguments} {settings : List Setting} (h : a.Holds settings) :
    (checkNetworks a = .ok a ∧ countNetworks settings ≤ 1) ∨
      (∃ flag others, checkNetworks a = .error (.conflict flag others)) ∧
        1 < countNetworks settings := by
  have hcount : countNetworks settings = (a.given.filter Flag.selectsNetwork).length := by
    rw [countNetworks, h.given, List.countP_eq_length_filter]
  rw [hcount]
  unfold checkNetworks
  split
  · rename_i flag other others hfilter
    right
    rw [hfilter]
    exact ⟨⟨flag, other :: others, rfl⟩, by simp⟩
  · rename_i hfew
    left
    refine ⟨rfl, ?_⟩
    match hfilter : a.given.filter Flag.selectsNetwork with
    | [] => simp
    | [flag] => simp
    | flag :: other :: others => exact absurd hfilter (hfew flag other others)

theorem parse_of_compatible {settings : List Setting} {words : List Bytes}
    (h : Written settings words) (hcompatible : Compatible settings) :
    ∃ a, parse words = .ok a ∧ a.Holds settings := by
  rcases placeAll_cases Arguments.holds_none with ⟨a, ha, hholds⟩ | ⟨-, hrepeated⟩
  · rw [List.nil_append] at hholds
    refine ⟨a, ?_, hholds⟩
    rw [parse_of_written h, ha]
    rcases checkNetworks_cases hholds with ⟨hok, -⟩ | ⟨-, hmany⟩
    · exact hok
    · exact absurd hcompatible.network (Nat.not_le_of_lt hmany)
  · exact absurd hcompatible.nodup hrepeated

theorem parse_of_not_compatible {settings : List Setting} {words : List Bytes}
    (h : Written settings words) (hnot : ¬ Compatible settings) :
    ∃ stop, parse words = .error stop ∧ stop.kind = "ArgumentConflict" := by
  rw [parse_of_written h]
  rcases @placeAll_cases settings [] .none Arguments.holds_none with
    ⟨a, ha, hholds⟩ | ⟨⟨flag, hflag⟩, -⟩
  · rw [ha]
    rcases checkNetworks_cases hholds with ⟨-, hfew⟩ | ⟨⟨flag, others, hconflict⟩, -⟩
    · exact absurd ⟨hholds.nodup, hfew⟩ hnot
    · refine ⟨.conflict flag others, hconflict, ?_⟩
      rfl
  · rw [hflag]
    exact ⟨.repeated flag, rfl, rfl⟩

/-- What an accepted command line comes to is what is written on it. -/
theorem holds_of_parse {settings : List Setting} {words : List Bytes} {a : Arguments}
    (h : parse words = .ok a) (hwritten : Written settings words) :
    Compatible settings ∧ a.Holds settings := by
  by_cases hcompatible : Compatible settings
  · obtain ⟨b, hb, hholds⟩ := parse_of_compatible hwritten hcompatible
    rw [h] at hb
    cases hb
    exact ⟨hcompatible, hholds⟩
  · obtain ⟨stop, hstop, -⟩ := parse_of_not_compatible hwritten hcompatible
    rw [h] at hstop
    cases hstop

end BuilderRelay.CommandLine
