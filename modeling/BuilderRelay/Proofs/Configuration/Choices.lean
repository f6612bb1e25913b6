import BuilderRelay.Configuration.Config
import BuilderRelay.Proofs.Configuration.Settings
import BuilderRelay.Proofs.Text.Numerals
import Mathlib.Data.List.Forall2
import Mathlib.Data.List.ReduceOption

/-!
# Every configuration can be written

What an operator may choose on the command line, and how a choice is written: as one word with an
equals sign in it, or as two words if the second does not look like an option. Choices are accepted
in whatever order they are written, and the relay is then configured as chosen; what is written
twice, or selects two networks, is refused.
-/

namespace BuilderRelay

open CommandLine (Setting Flag Switch TextOption Arguments Written Compatible)
open Utf8 (encode)

/-! ## Spellings -/

namespace CommandLine

/-- The value of a setting as it is written. -/
def Setting.value? : Setting → Option String
  | switch _ => none
  | text _ value => some value
  | wait ms => some (toString ms.toNat)
  | json b => some (toString b)

inductive Spelled : Setting → List String → Prop
  | switch (s : Switch) : Spelled (.switch s) ["--" ++ (Flag.switch s).longName]
  | bareJson : Spelled (.json true) ["--" ++ Flag.json.longName]
  | attached {setting : Setting} {value : String} : setting.value? = some value →
      Spelled setting ["--" ++ setting.flag.longName ++ "=" ++ value]
  | separate {setting : Setting} {value : String} : setting.value? = some value →
      setting.flag.takesWord → value.toList.head? ≠ some '-' →
      Spelled setting ["--" ++ setting.flag.longName, value]

theorem encode_word (flag : Flag) : encode ("--" ++ flag.longName) = flag.word := by
  rw [Utf8.encode_append]
  rfl

theorem encode_attached (flag : Flag) (value : String) :
    encode ("--" ++ flag.longName ++ "=" ++ value) = flag.word ++ equalsSign :: encode value := by
  rw [Utf8.encode_append, Utf8.encode_append, encode_word, List.append_assoc]
  rfl

theorem readSetting_value {setting : Setting} {value : String} (h : setting.value? = some value) :
    readSetting setting.flag (encode value) = .ok setting := by
  cases setting with
  | switch s => cases h
  | text t v =>
      cases h
      simp [Setting.flag, readSetting, utf8, Utf8.decode_encode, Except.map]
  | wait ms =>
      cases h
      simp only [Setting.flag, readSetting, utf8, Utf8.decode_encode, bind, Except.bind,
        Text.readUInt64_toString]
  | json b =>
      cases h
      cases b <;> decide

theorem takesAttached_of_value {setting : Setting} {value : String}
    (h : setting.value? = some value) : setting.flag.takesAttached := by
  cases setting with
  | switch s => cases h
  | text _ _ | wait _ | json _ => rfl

/-- A text that starts with no hyphen does not do so in bytes. -/
theorem isValue_encode {value : String} (h : value.toList.head? ≠ some '-') :
    isValue (encode value) := by
  intro hhead
  exfalso
  rw [Utf8.encode_eq] at hhead
  cases hchars : value.toList with
  | nil => simp [hchars] at hhead
  | cons c cs =>
      cases hbytes : String.utf8EncodeChar c with
      | nil => exact String.utf8EncodeChar_ne_nil hbytes
      | cons b rest =>
          rw [hchars, Utf8.encodeChars_cons, hbytes, List.cons_append, List.head?_cons,
            Option.some.injEq] at hhead
          have hmem : hyphen ∈ String.utf8EncodeChar c := by
            rw [hbytes, hhead]
            exact List.mem_cons_self
          have hc : c.toNat = '-'.toNat := Utf8.toNat_of_mem_encodeChar hmem (by decide)
          apply h
          rw [hchars, List.head?_cons, Char.toNat_inj.mp hc]

theorem written_of_spelled {setting : Setting} {group : List String} (h : Spelled setting group)
    {settings : List Setting} {words : List Bytes} (hwords : Written settings words) :
    Written (setting :: settings) (group.map encode ++ words) := by
  cases h with
  | switch s =>
      rw [List.map_singleton, encode_word]
      exact .alone rfl rfl hwords
  | bareJson =>
      rw [List.map_singleton, encode_word]
      exact .alone rfl (by decide) hwords
  | attached hvalue =>
      rw [List.map_singleton, encode_attached]
      exact .attached (takesAttached_of_value hvalue) (readSetting_value hvalue) hwords
  | separate hvalue hword hplain =>
      rw [List.map_cons, List.map_singleton, encode_word]
      exact .separate hword (isValue_encode hplain) (readSetting_value hvalue) hwords

theorem written_of_forall_spelled {settings : List Setting} {groups : List (List String)}
    (h : List.Forall₂ Spelled settings groups) : Written settings (groups.flatten.map encode) := by
  induction h with
  | nil => exact .nil
  | cons hspelled _ ih =>
      rw [List.flatten_cons, List.map_append]
      exact written_of_spelled hspelled ih

end CommandLine

/-! ## Choices -/

/-- A log level that is known, as the operator writes it. -/
structure LevelName where
  text : String
  level : LogLevel
  read_text : LogLevel.read text = some level

inductive NetworkChoice where
  | mainnet
  | kiln
  | ropsten
  | sepolia
  | custom (value : String)
  deriving DecidableEq

def NetworkChoice.setting : NetworkChoice → Setting
  | mainnet => .switch .mainnet
  | kiln => .switch .kiln
  | ropsten => .switch .ropsten
  | sepolia => .switch .sepolia
  | custom value => .text .genesisForkVersion value

/-- What an operator may choose. What is not chosen has a default. -/
structure Choices where
  listenAddr : Option String
  beaconUri : Option String
  redisUri : Option String
  secretKey : Option String
  waitMs : Option UInt64
  pprof : Bool
  json : Option Bool
  logLevel : Option LevelName
  network : Option NetworkChoice

namespace Choices

/-- What is chosen of each option in turn. -/
def places (c : Choices) : List (Option Setting) := [
  c.listenAddr.map (.text .listenAddr),
  c.beaconUri.map (.text .beaconUri),
  c.redisUri.map (.text .redisUri),
  c.secretKey.map (.text .secretKey),
  c.waitMs.map .wait,
  if c.pprof then some (.switch .pprof) else none,
  c.json.map .json,
  c.logLevel.map fun name => .text .logLevel name.text,
  c.network.map NetworkChoice.setting]

def settings (c : Choices) : List Setting := c.places.reduceOption

def customForkVersion (c : Choices) : Option String :=
  match c.network with
  | some (.custom value) => some value
  | _ => none

def config (c : Choices) : Config where
  listenAddr := c.listenAddr.getD Config.defaultListenAddr
  beaconUri := c.beaconUri.getD ""
  redisUri := c.redisUri.getD Config.defaultRedisUri
  logJson := c.json.getD false
  logLevel := (c.logLevel.map LevelName.level).getD .info
  pprof := c.pprof
  getHeaderWait := c.waitMs.getD Config.defaultGetHeaderWait
  secretKey := c.secretKey.getD ""
  network := {
    custom := c.customForkVersion.map (⟨·, .flag⟩)
    mainnet := c.network = some .mainnet
    kiln := c.network = some .kiln
    ropsten := c.network = some .ropsten
    sepolia := c.network = some .sepolia }

def switches (c : Choices) : Switch → Bool
  | .pprof => c.pprof
  | .mainnet => c.network = some .mainnet
  | .kiln => c.network = some .kiln
  | .ropsten => c.network = some .ropsten
  | .sepolia => c.network = some .sepolia

def texts (c : Choices) : TextOption → Option String
  | .listenAddr => c.listenAddr
  | .beaconUri => c.beaconUri
  | .redisUri => c.redisUri
  | .secretKey => c.secretKey
  | .logLevel => c.logLevel.map LevelName.text
  | .genesisForkVersion => c.customForkVersion

theorem exists_network_iff (c : Choices) (setting : Setting) :
    (∃ n, c.network = some n ∧ n.setting = setting) ↔
      match setting with
      | .switch s => s ≠ .pprof ∧ c.switches s = true
      | .text t value => t = .genesisForkVersion ∧ c.customForkVersion = some value
      | _ => False := by
  rcases hn : c.network with _ | n
  · rcases setting with s | ⟨t, value⟩ | ms | b
    · cases s <;> simp [switches, hn]
    · simp [customForkVersion, hn]
    · simp
    · simp
  · rcases setting with s | ⟨t, value⟩ | ms | b
    · cases n <;> cases s <;> simp [NetworkChoice.setting, switches, hn]
    · cases n <;> simp [NetworkChoice.setting, customForkVersion, hn, eq_comm]
    · cases n <;> simp [NetworkChoice.setting]
    · cases n <;> simp [NetworkChoice.setting]

theorem mem_settings (c : Choices) (setting : Setting) :
    setting ∈ c.settings ↔
      match setting with
      | .switch s => c.switches s = true
      | .text t value => c.texts t = some value
      | .wait ms => c.waitMs = some ms
      | .json b => c.json = some b := by
  have hnetwork := c.exists_network_iff
  rw [settings, List.reduceOption_mem_iff]
  simp only [places, List.mem_cons, @eq_comm _ (some _)]
  rcases setting with s | ⟨t, value⟩ | ms | b
  · cases s <;> simp [hnetwork, switches]
  · cases t <;> simp [hnetwork, texts]
  · simp [hnetwork]
  · simp [hnetwork]

/-- The options that the places are for. -/
def options (c : Choices) : List Flag := [.text .listenAddr, .text .beaconUri, .text .redisUri,
  .text .secretKey, .wait, .switch .pprof, .json, .text .logLevel,
  c.network.elim (.text .genesisForkVersion) fun n => n.setting.flag]

/-- Whether a place is for an option: a setting that is there sets it. -/
def IsFor (place : Option Setting) (flag : Flag) : Prop := ∀ setting ∈ place, setting.flag = flag

theorem isFor_map {α : Type} {f : α → Setting} {flag : Flag} (h : ∀ a, (f a).flag = flag)
    (o : Option α) : IsFor (o.map f) flag := by
  intro setting hsetting
  obtain ⟨a, -, rfl⟩ := Option.map_eq_some_iff.mp hsetting
  exact h a

theorem places_isFor_options (c : Choices) : List.Forall₂ IsFor c.places c.options := by
  have hpprof : IsFor (if c.pprof then some (.switch .pprof) else none) (.switch .pprof) := by
    intro setting hsetting
    cases hpprof : c.pprof <;> simp [hpprof] at hsetting
    rw [← hsetting]
    rfl
  have hnetwork : IsFor (c.network.map NetworkChoice.setting)
      (c.network.elim (.text .genesisForkVersion) fun n => n.setting.flag) := by
    intro setting hsetting
    obtain ⟨n, hn, rfl⟩ := Option.map_eq_some_iff.mp hsetting
    rw [hn]
    rfl
  refine .cons ?_ (.cons ?_ (.cons ?_ (.cons ?_ (.cons ?_ (.cons hpprof (.cons ?_ (.cons ?_
    (.cons hnetwork .nil))))))))
  all_goals
    apply isFor_map
    intro _
    rfl

theorem flags_sublist {places : List (Option Setting)} {flags : List Flag}
    (h : List.Forall₂ IsFor places flags) :
    (places.reduceOption.map Setting.flag).Sublist flags := by
  induction h with
  | nil => exact .slnil
  | @cons place flag _ _ hplace _ ih =>
      cases place with
      | none => exact ih.cons _
      | some setting =>
          have hflag : setting.flag = flag := hplace setting rfl
          rw [List.reduceOption_cons_of_some, List.map_cons, hflag]
          exact ih.cons_cons _

theorem flags_sublist_options (c : Choices) :
    (c.settings.map Setting.flag).Sublist c.options :=
  flags_sublist c.places_isFor_options

theorem compatible_settings (c : Choices) : Compatible c.settings where
  nodup := by
    have hnodup : c.options.Nodup := by
      unfold options
      rcases c.network with _ | n
      · decide
      · cases n <;> simp [NetworkChoice.setting, Setting.flag]
    exact c.flags_sublist_options.nodup hnodup
  network := by
    have hcount : c.options.countP Flag.selectsNetwork ≤ 1 := by
      unfold options
      rcases c.network with _ | n
      · decide
      · cases n <;> simp [NetworkChoice.setting, Setting.flag, Flag.selectsNetwork]
    exact Nat.le_trans c.flags_sublist_options.countP_le hcount

/-- The configuration of arguments that have what is chosen. -/
theorem resolve_of_has {c : Choices} {a : Arguments}
    (h : ∀ setting, a.Has setting ↔ setting ∈ c.settings) :
    Config.resolve a (fun _ => none) = .ok c.config := by
  have hswitches : a.switches = c.switches := by
    funext s
    have hs := (h (.switch s)).trans (c.mem_settings (.switch s))
    exact Bool.eq_iff_iff.mpr hs
  have htexts : a.texts = c.texts := by
    funext t
    apply Option.ext
    intro value
    exact (h (.text t value)).trans (c.mem_settings (.text t value))
  have hwait : a.waitMs = c.waitMs := by
    apply Option.ext
    intro ms
    exact (h (.wait ms)).trans (c.mem_settings (.wait ms))
  have hjson : a.json = c.json := by
    apply Option.ext
    intro b
    exact (h (.json b)).trans (c.mem_settings (.json b))
  have hlevel : LogLevel.read (Config.logLevelName a fun _ => none) =
      some ((c.logLevel.map LevelName.level).getD .info) := by
    rw [Config.logLevelName, htexts]
    cases hl : c.logLevel with
    | none => simp only [texts, hl]; decide
    | some name => simp [texts, hl, name.read_text]
  have hcustom : Config.customForkVersion a (fun _ => none) =
      c.customForkVersion.map (⟨·, .flag⟩) := by
    rw [Config.customForkVersion, htexts]
    simp only [texts]
    cases c.customForkVersion <;> rfl
  simp only [Config.resolve, hlevel, hcustom, hswitches, htexts, hwait, hjson]
  simp [config, texts, switches]

end Choices

/-! ## Writing choices -/

/-- Whatever is chosen can be written, in any order and any spelling, and comes out as it was chosen;
what is written of options that exclude each other is refused. -/
theorem choices_resolved :
    (∀ (c : Choices) (order : List Setting) (groups : List (List String)),
      order.Perm c.settings → List.Forall₂ CommandLine.Spelled order groups →
      ∃ a, CommandLine.parse (groups.flatten.map encode) = .ok a ∧
        Config.resolve a (fun _ => none) = .ok c.config) ∧
    (∀ (settings : List Setting) (groups : List (List String)),
      List.Forall₂ CommandLine.Spelled settings groups →
      (¬ (settings.map Setting.flag).Nodup ∨ 1 < CommandLine.countNetworks settings) →
      ∃ stop, CommandLine.parse (groups.flatten.map encode) = .error stop ∧
        stop.kind = "ArgumentConflict") := by
  constructor
  · intro c order groups hperm hspelled
    have hwritten := CommandLine.written_of_forall_spelled hspelled
    have hflags := hperm.map Setting.flag
    have hcompatible : Compatible order := {
      nodup := hflags.nodup_iff.mpr c.compatible_settings.nodup
      network := by
        rw [CommandLine.countNetworks, hflags.countP_eq]
        exact c.compatible_settings.network }
    obtain ⟨a, ha, hholds⟩ := CommandLine.parse_of_compatible hwritten hcompatible
    refine ⟨a, ha, Choices.resolve_of_has ?_⟩
    intro setting
    rw [hholds.has_iff, hperm.mem_iff]
  · intro settings groups hspelled hexcluded
    have hwritten := CommandLine.written_of_forall_spelled hspelled
    apply CommandLine.parse_of_not_compatible hwritten
    intro hcompatible
    rcases hexcluded with hrepeated | hmany
    · exact hrepeated hcompatible.nodup
    · exact absurd hcompatible.network (Nat.not_le_of_lt hmany)

/-- Choices among which are an empty address, a key text that looks like an option, and the longest
wait there is. -/
def longestWait : Choices where
  listenAddr := none
  beaconUri := some "http://a=b"
  redisUri := some ""
  secretKey := some "-k"
  waitMs := some 18446744073709551615
  pprof := true
  json := some true
  logLevel := some ⟨"Fatal", .error, by decide⟩
  network := some (.custom "0x01")

theorem longestWait_resolved :
    (∃ a, CommandLine.parse (["--genesis-fork-version=0x01", "--json", "--loglevel", "Fatal",
        "--redis-uri", "", "--pprof", "--beacon-uri=http://a=b", "--secret-key=-k",
        "--getheader-wait-ms", "18446744073709551615"].map encode) = .ok a ∧
      Config.resolve a (fun _ => none) = .ok longestWait.config) ∧
    ∃ stop, CommandLine.parse (["--kiln", "--genesis-fork-version", "0x01"].map encode) =
        .error stop ∧ stop.kind = "ArgumentConflict" := by
  have hversion := @CommandLine.Spelled.attached (.text .genesisForkVersion "0x01") "0x01" rfl
  have hlevel := @CommandLine.Spelled.separate (.text .logLevel "Fatal") "Fatal" rfl rfl (by decide)
  have hredis := @CommandLine.Spelled.separate (.text .redisUri "") "" rfl rfl (by decide)
  have hbeacon := @CommandLine.Spelled.attached (.text .beaconUri "http://a=b") "http://a=b" rfl
  have hkey := @CommandLine.Spelled.attached (.text .secretKey "-k") "-k" rfl
  have hwait := @CommandLine.Spelled.separate (.wait 18446744073709551615)
    "18446744073709551615" rfl rfl (by decide)
  have hseparate := @CommandLine.Spelled.separate (.text .genesisForkVersion "0x01") "0x01" rfl rfl
    (by decide)
  constructor
  · refine choices_resolved.1 longestWait
      [.text .genesisForkVersion "0x01", .json true, .text .logLevel "Fatal", .text .redisUri "",
        .switch .pprof, .text .beaconUri "http://a=b", .text .secretKey "-k",
        .wait 18446744073709551615]
      [["--genesis-fork-version=0x01"], ["--json"], ["--loglevel", "Fatal"], ["--redis-uri", ""],
        ["--pprof"], ["--beacon-uri=http://a=b"], ["--secret-key=-k"],
        ["--getheader-wait-ms", "18446744073709551615"]] (by decide) ?_
    exact .cons hversion (.cons .bareJson (.cons hlevel (.cons hredis (.cons (.switch .pprof)
      (.cons hbeacon (.cons hkey (.cons hwait .nil)))))))
  · exact choices_resolved.2 [.switch .kiln, .text .genesisForkVersion "0x01"]
      [["--kiln"], ["--genesis-fork-version", "0x01"]]
      (.cons (.switch .kiln) (.cons hseparate .nil)) (.inr (by decide))

end BuilderRelay
