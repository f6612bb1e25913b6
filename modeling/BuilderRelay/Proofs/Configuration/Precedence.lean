import BuilderRelay.Configuration.Config
import BuilderRelay.Proofs.Configuration.Settings
import BuilderRelay.Proofs.Text.Encoding

/-!
# Where settings come from

Five settings have both an option and an environment variable. Each is what is written on the
command line, even if that is empty, or else what the variable says, or else a default; a variable
whose option is written makes no difference. The only error is a log level that is not known, and it
carries the text that was chosen.
-/

namespace BuilderRelay

open CommandLine (Setting Flag TextOption Arguments Written)

/-! ## Precedence -/

/-- The given value comes first, then the value of the environment, then the default. -/
inductive Chosen {α : Type} (given : α → Prop) (env : Option α) (default : α) : α → Prop
  | given {a : α} : given a → Chosen given env default a
  | environment {a : α} : (∀ b, ¬ given b) → env = some a → Chosen given env default a
  | default : (∀ b, ¬ given b) → env = none → Chosen given env default default

theorem chosen_iff {α : Type} {given : α → Prop} {o : Option α} (h : ∀ a, o = some a ↔ given a)
    (env : Option α) (default a : α) :
    Chosen given env default a ↔ a = (o.or env).getD default := by
  cases o with
  | some b =>
      have hgiven : given b := (h b).mp rfl
      constructor
      · intro hchosen
        cases hchosen with
        | given ha => exact (Option.some.inj ((h a).mpr ha)).symm
        | environment hnone | default hnone => exact absurd hgiven (hnone b)
      · rintro rfl
        exact .given hgiven
  | none =>
      have hnone : ∀ b, ¬ given b := by
        intro b hb
        cases (h b).mpr hb
      constructor
      · intro hchosen
        cases hchosen with
        | given ha => exact absurd ha (hnone a)
        | environment _ henv => rw [henv]; rfl
        | default _ henv => rw [henv]; rfl
      · rintro rfl
        cases env with
        | none => exact .default hnone rfl
        | some b => exact .environment hnone rfl

/-- The variables that stand for options. -/
inductive Variable where
  | beaconUri
  | redisUri
  | logJson
  | logLevel
  | genesisForkVersion
  deriving DecidableEq, Repr

namespace Variable

def name : Variable → String
  | beaconUri => "BEACON_URI"
  | redisUri => "REDIS_URI"
  | logJson => "LOG_JSON"
  | logLevel => "LOG_LEVEL"
  | genesisForkVersion => "GENESIS_FORK_VERSION"

/-- The option the variable stands for. -/
def flag : Variable → Flag
  | beaconUri => .text .beaconUri
  | redisUri => .text .redisUri
  | logJson => .json
  | logLevel => .text .logLevel
  | genesisForkVersion => .text .genesisForkVersion

end Variable

/-! ## Log levels -/

/-- The names of levels that are known. -/
def levelNames : List (String × LogLevel) := [
  ("trace", .trace), ("debug", .debug), ("info", .info), ("warn", .warn), ("warning", .warn),
  ("error", .error), ("fatal", .error), ("panic", .error)]

theorem LogLevel.read_eq (text : String) :
    LogLevel.read text = levelNames.lookup (Text.asciiLower (Text.trim text)) := by
  unfold LogLevel.read
  split
  case h_9 h₁ h₂ h₃ h₄ h₅ h₆ h₇ h₈ =>
    symm
    rw [List.lookup_eq_none_iff]
    simp only [levelNames, List.forall_mem_cons, bne_iff_ne]
    exact ⟨h₁, h₂, h₃, h₄, h₅, h₆, h₇, h₈, List.forall_mem_nil _⟩
  all_goals
    rename_i hname
    rw [hname]
    rfl

theorem lookup_levelNames_eq_none_iff {name : String} :
    levelNames.lookup name = none ↔ name ∉ levelNames.map (·.1) := by
  rw [List.lookup_eq_none_iff, List.mem_map]
  constructor
  · rintro hne ⟨p, hp, rfl⟩
    exact bne_iff_ne.mp (hne p hp) rfl
  · intro hnot p hp
    rw [bne_iff_ne]
    rintro rfl
    exact hnot ⟨p, hp, rfl⟩

/-! ## What a configuration is taken from -/

/-- The name of the log level, before it is looked at. -/
def ChosenLevel (settings : List Setting) (env : Environment) : String → Prop :=
  Chosen (fun name => .text .logLevel name ∈ settings) (env Variable.logLevel.name) "info"

structure TakenFrom (settings : List Setting) (env : Environment) (c : Config) : Prop where
  beaconUri : Chosen (fun uri => .text .beaconUri uri ∈ settings) (env Variable.beaconUri.name) ""
    c.beaconUri
  redisUri : Chosen (fun uri => .text .redisUri uri ∈ settings) (env Variable.redisUri.name)
    "localhost:6379" c.redisUri
  /-- Any value of the variable means yes. -/
  logJson : Chosen (fun b => .json b ∈ settings) ((env Variable.logJson.name).map fun _ => true)
    false c.logJson
  logLevel : ∃ name, ChosenLevel settings env name ∧
    levelNames.lookup (Text.asciiLower (Text.trim name)) = some c.logLevel
  forkVersion : Chosen
    (fun custom => ∃ value, .text .genesisForkVersion value ∈ settings ∧
      custom = some ⟨value, .flag⟩)
    ((env Variable.genesisForkVersion.name).map fun value => some ⟨value, .environment⟩)
    none c.network.custom

section

variable {a : Arguments} {settings : List Setting} (h : a.Holds settings)

include h

theorem texts_eq_some_iff (t : TextOption) (value : String) :
    a.texts t = some value ↔ .text t value ∈ settings := h.has_iff (.text t value)

theorem json_eq_some_iff (b : Bool) : a.json = some b ↔ .json b ∈ settings := h.has_iff (.json b)

theorem customFlag_eq_some_iff (custom : Option CustomForkVersion) :
    (a.texts .genesisForkVersion).map (fun value => some ⟨value, .flag⟩) = some custom ↔
      ∃ value, .text .genesisForkVersion value ∈ settings ∧ custom = some ⟨value, .flag⟩ := by
  simp only [Option.map_eq_some_iff, texts_eq_some_iff h, eq_comm (a := custom)]

theorem chosenLevel_iff (env : Environment) (name : String) :
    ChosenLevel settings env name ↔ name = Config.logLevelName a env :=
  chosen_iff (texts_eq_some_iff h .logLevel) _ _ _

theorem takenFrom_of_resolve {env : Environment} {c : Config} (hc : Config.resolve a env = .ok c) :
    TakenFrom settings env c := by
  unfold Config.resolve at hc
  split at hc
  · cases hc
  · rename_i level hlevel
    cases hc
    constructor
    · exact (chosen_iff (texts_eq_some_iff h .beaconUri) _ _ _).mpr rfl
    · exact (chosen_iff (texts_eq_some_iff h .redisUri) _ _ _).mpr rfl
    · rw [chosen_iff (json_eq_some_iff h), Variable.name]
      cases a.json <;> cases env "LOG_JSON" <;> rfl
    · refine ⟨_, (chosenLevel_iff h env _).mpr rfl, ?_⟩
      rw [← LogLevel.read_eq, hlevel]
    · rw [chosen_iff (customFlag_eq_some_iff h), Config.customForkVersion, Variable.name]
      cases a.texts .genesisForkVersion <;> cases env "GENESIS_FORK_VERSION" <;> rfl

theorem resolve_eq_error_iff {env : Environment} {e : StartupError} :
    Config.resolve a env = .error e ↔ ∃ name, ChosenLevel settings env name ∧
      Text.asciiLower (Text.trim name) ∉ levelNames.map (·.1) ∧ e = .invalidLogLevel name := by
  simp only [chosenLevel_iff h, exists_eq_left, ← lookup_levelNames_eq_none_iff, ← LogLevel.read_eq]
  unfold Config.resolve
  cases LogLevel.read (Config.logLevelName a env) with
  | none => simp only [Except.error.injEq, true_and, eq_comm]
  | some level => simp only [reduceCtorEq, false_and]

theorem not_mem_of_texts {t : TextOption} (ht : a.texts t = none) :
    Flag.text t ∉ settings.map Setting.flag := by
  rw [List.mem_map]
  rintro ⟨setting, hmem, hflag⟩
  cases setting <;> cases hflag
  rw [← texts_eq_some_iff h, ht] at hmem
  cases hmem

theorem not_mem_of_json (hjson : a.json = none) : Flag.json ∉ settings.map Setting.flag := by
  rw [List.mem_map]
  rintro ⟨setting, hmem, hflag⟩
  cases setting <;> cases hflag
  rw [← json_eq_some_iff h, hjson] at hmem
  cases hmem

/-- What is asked of a variable is asked only if its option is not written. -/
theorem texts_or_congr {t : TextOption} {x y : Option String}
    (hagree : Flag.text t ∉ settings.map Setting.flag → x = y) :
    (a.texts t).or x = (a.texts t).or y := by
  cases ht : a.texts t with
  | none => rw [hagree (not_mem_of_texts h ht)]
  | some value => rfl

/-- The variables of options that are written make no difference. -/
theorem resolve_congr {env other : Environment}
    (hagree : ∀ x : Variable, x.flag ∉ settings.map Setting.flag → env x.name = other x.name) :
    Config.resolve a env = Config.resolve a other := by
  have hbeacon := texts_or_congr h (hagree .beaconUri)
  have hredis := texts_or_congr h (hagree .redisUri)
  have hlevel := texts_or_congr h (hagree .logLevel)
  have hjson : a.json.getD (env "LOG_JSON").isSome = a.json.getD (other "LOG_JSON").isSome := by
    cases hjson : a.json with
    | none =>
        have henv : env "LOG_JSON" = other "LOG_JSON" := hagree .logJson (not_mem_of_json h hjson)
        rw [henv]
    | some b => rfl
  have hcustom : Config.customForkVersion a env = Config.customForkVersion a other := by
    unfold Config.customForkVersion
    cases ht : a.texts .genesisForkVersion with
    | none =>
        have henv : env "GENESIS_FORK_VERSION" = other "GENESIS_FORK_VERSION" :=
          hagree .genesisForkVersion (not_mem_of_texts h ht)
        rw [henv]
    | some value => rfl
  simp only [Variable.name] at hbeacon hredis hlevel
  simp only [Config.resolve, Config.logLevelName, hbeacon, hredis, hlevel, hjson, hcustom]

end

/-! ## The environment of a process -/

/-- The environment has the variables whose value is a text and not empty. -/
def Drops (vars : String → Option Bytes) (env : Environment) : Prop :=
  ∀ name text, env name = some text ↔ vars name = some (Utf8.encode text) ∧ text ≠ ""

theorem Environment.usable_eq_some_iff {value : Option Bytes} {text : String} :
    usable value = some text ↔ value = some (Utf8.encode text) ∧ text ≠ "" := by
  constructor
  · intro h
    unfold usable at h
    obtain ⟨bytes, hbytes, h⟩ := Option.bind_eq_some_iff.mp h
    obtain ⟨decoded, hdecoded, h⟩ := Option.bind_eq_some_iff.mp h
    split at h
    · cases h
    · rename_i hempty
      cases h
      rw [hbytes, Utf8.eq_encode_of_decode hdecoded]
      exact ⟨rfl, fun heq => hempty (String.isEmpty_iff.mpr heq)⟩
  · rintro ⟨rfl, hne⟩
    have hempty : ¬ text.isEmpty = true := fun h => hne (String.isEmpty_iff.mp h)
    simp only [usable, Option.bind_eq_bind, Option.bind_some, Utf8.decode_encode, if_neg hempty]

theorem drops_iff {vars : String → Option Bytes} {env : Environment} :
    Drops vars env ↔ env = .ofProcess vars := by
  constructor
  · intro h
    funext name
    apply Option.ext
    intro text
    exact (h name text).trans Environment.usable_eq_some_iff.symm
  · rintro rfl name text
    exact Environment.usable_eq_some_iff

/-! ## Precedence of the settings of a command line -/

/-- Every setting of a configuration is what the command line says, else what the environment says,
else a default, and the variables of options that are written make no difference. Only the name of
the log level can be wrong. -/
theorem settings_precede {words : List Bytes} {a : Arguments}
    (hparse : CommandLine.parse words = .ok a) :
    (∃ settings, Written settings words) ∧
      ∀ settings, Written settings words →
        (∀ env c, Config.resolve a env = .ok c → TakenFrom settings env c) ∧
        (∀ env e, Config.resolve a env = .error e ↔ ∃ name, ChosenLevel settings env name ∧
          Text.asciiLower (Text.trim name) ∉ levelNames.map (·.1) ∧ e = .invalidLogLevel name) ∧
        (∀ env other : Environment,
          (∀ x : Variable, x.flag ∉ settings.map Setting.flag → env x.name = other x.name) →
            Config.resolve a env = Config.resolve a other) ∧
        ∀ vars, Drops vars (.ofProcess vars) ∧
          ∀ env, Drops vars env → Config.resolve a (.ofProcess vars) = Config.resolve a env := by
  refine ⟨CommandLine.written_of_parse hparse, ?_⟩
  intro settings hwritten
  obtain ⟨-, hholds⟩ := CommandLine.holds_of_parse hparse hwritten
  refine ⟨fun env c => takenFrom_of_resolve hholds, fun env e => resolve_eq_error_iff hholds,
    fun env other => resolve_congr hholds, ?_⟩
  intro vars
  refine ⟨drops_iff.mpr rfl, ?_⟩
  intro env henv
  rw [drops_iff.mp henv]

def emptyUriWords : List Bytes :=
  ["--beacon-uri=", "--json=false", "--loglevel", " Warning"].map Utf8.encode

def emptyUriSettings : List Setting :=
  [.text .beaconUri "", .json false, .text .logLevel " Warning"]

theorem written_emptyUri : Written emptyUriSettings emptyUriWords := by
  have hbeacon : Utf8.encode "--beacon-uri=" =
      (Flag.text .beaconUri).word ++ CommandLine.equalsSign :: [] := by decide
  have hjson : Utf8.encode "--json=false" =
      Flag.json.word ++ CommandLine.equalsSign :: Utf8.encode "false" := by decide
  have hlevel : Utf8.encode "--loglevel" = (Flag.text .logLevel).word := by decide
  have hvalue : CommandLine.isValue (Utf8.encode " Warning") := fun h => absurd h (by decide)
  simp only [emptyUriWords, List.map_cons, List.map_nil, hbeacon, hjson, hlevel]
  exact .attached rfl rfl (.attached rfl rfl (.separate rfl hvalue rfl .nil))

/-- With every variable set to the same text, which is no log level: what is written is used even if
it is empty or no, and only the variables whose options are not written are looked at. -/
theorem empty_option_precedes : ∃ a c,
    CommandLine.parse emptyUriWords = .ok a ∧ Config.resolve a (fun _ => some "1") = .ok c ∧
    TakenFrom emptyUriSettings (fun _ => some "1") c ∧
    (c.beaconUri = "" ∧ c.redisUri = "1" ∧ c.logJson = false ∧ c.logLevel = .warn) ∧
    Config.resolve a (fun name =>
      if name = "REDIS_URI" ∨ name = "GENESIS_FORK_VERSION" then some "1" else none) = .ok c := by
  obtain ⟨a, c, ha, hc, hvalues⟩ : ∃ a c,
      CommandLine.parse emptyUriWords = .ok a ∧ Config.resolve a (fun _ => some "1") = .ok c ∧
      c.beaconUri = "" ∧ c.redisUri = "1" ∧ c.logJson = false ∧ c.logLevel = .warn :=
    ⟨_, _, rfl, rfl, rfl, rfl, rfl, rfl⟩
  obtain ⟨htaken, -, hcongr, -⟩ := (settings_precede ha).2 _ written_emptyUri
  refine ⟨a, c, ha, hc, htaken _ c hc, hvalues, ?_⟩
  rw [← hc]
  apply hcongr
  intro x hx
  cases x
  case redisUri | genesisForkVersion => rfl
  -- The options of the other three are written.
  all_goals exact absurd (by decide) hx

end BuilderRelay
