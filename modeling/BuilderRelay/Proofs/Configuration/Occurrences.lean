import BuilderRelay.Configuration.CommandLine
import BuilderRelay.Proofs.Text.LossyText

/-!
# What a command line says

`Written settings words` says that the words are one occurrence after the other: an option that
stands alone, an option with its value behind an equals sign, or an option with its value as the
next word. The reader keeps an option pending until its value is known and looks for what is wrong
with it later still; all the same it gives the settings in the order they are written
(`parse_of_written`), and it accepts nothing that is not so written (`written_of_parse`).
-/

namespace BuilderRelay.CommandLine

open Utf8

/-! ## Options by name -/

def Flag.longName : Flag → String
  | text .listenAddr => "listen-addr"
  | text .beaconUri => "beacon-uri"
  | text .redisUri => "redis-uri"
  | switch .pprof => "pprof"
  | wait => "getheader-wait-ms"
  | text .secretKey => "secret-key"
  | json => "json"
  | text .logLevel => "loglevel"
  | switch .mainnet => "mainnet"
  | switch .kiln => "kiln"
  | switch .ropsten => "ropsten"
  | switch .sepolia => "sepolia"
  | text .genesisForkVersion => "genesis-fork-version"
  | help => "help"
  | version => "version"

def Flag.word (flag : Flag) : Bytes := hyphen :: hyphen :: encode flag.longName

/-- What is true of all options in the table of names is true of all options. -/
theorem Flag.forall_of_named {p : Flag → Prop} (h : ∀ flag ∈ longNames.map Prod.snd, p flag) :
    ∀ flag : Flag, p flag := by
  intro flag
  apply h
  rcases flag with s | t | _ | _ | _ | _
  · cases s <;> decide
  · cases t <;> decide
  all_goals decide

theorem lookup_longName (flag : Flag) :
    longNames.lookup (decodeLossy (encode flag.longName)) = some flag := by
  revert flag
  exact Flag.forall_of_named (by decide)

theorem equalsSign_notMem_longName (flag : Flag) : equalsSign ∉ encode flag.longName := by
  revert flag
  exact Flag.forall_of_named (by decide)

theorem longName_ascii (flag : Flag) : ∀ c ∈ flag.longName.toList, c.toNat < 0x80 := by
  have hall : ∀ flag : Flag, (flag.longName.toList.all fun c => decide (c.toNat < 0x80)) = true :=
    Flag.forall_of_named (by decide)
  intro c hc
  exact of_decide_eq_true (List.all_eq_true.mp (hall flag) c hc)

theorem eq_longName_of_mem : ∀ entry ∈ longNames, entry.1 = entry.2.longName := by decide

/-- An option is recognized by the bytes of its name alone. -/
theorem eq_encode_longName {name : Bytes} {flag : Flag}
    (h : longNames.lookup (decodeLossy name) = some flag) : name = encode flag.longName := by
  obtain ⟨before, after, hnames, -⟩ := List.lookup_eq_some_iff.mp h
  have hmem : (decodeLossy name, flag) ∈ longNames := by
    rw [hnames]
    simp
  exact eq_encode_of_decodeLossy (eq_longName_of_mem _ hmem) (longName_ascii flag)

theorem ne_equalsSign_of_mem {name : Bytes} (h : equalsSign ∉ name) :
    ∀ b ∈ name, decide (b ≠ equalsSign) = true := by
  intro b hb
  apply decide_eq_true
  rintro rfl
  exact h hb

theorem splitEquals_name {name : Bytes} (h : equalsSign ∉ name) :
    splitEquals name = (name, none) := by
  have hdrop : (name ++ []).dropWhile (· ≠ equalsSign) = [] :=
    List.dropWhile_append_of_pos (ne_equalsSign_of_mem h)
  rw [List.append_nil] at hdrop
  rw [splitEquals, hdrop]

theorem splitEquals_value {name : Bytes} (h : equalsSign ∉ name) (value : Bytes) :
    splitEquals (name ++ equalsSign :: value) = (name, some value) := by
  have hname := ne_equalsSign_of_mem h
  rw [splitEquals, List.dropWhile_append_of_pos hname, List.takeWhile_append_of_pos hname]
  simp

theorem eq_of_splitEquals (bytes : Bytes) :
    (splitEquals bytes = (bytes, none)) ∨
      ∃ name value, splitEquals bytes = (name, some value) ∧
        bytes = name ++ equalsSign :: value := by
  cases hdrop : bytes.dropWhile (· ≠ equalsSign) with
  | nil =>
      left
      rw [splitEquals, hdrop]
  | cons b value =>
      right
      have hb : b = equalsSign := by
        have hhead := List.head?_dropWhile_not (· ≠ equalsSign) bytes
        rw [hdrop] at hhead
        simpa using hhead
      subst hb
      refine ⟨bytes.takeWhile (· ≠ equalsSign), value, by rw [splitEquals, hdrop], ?_⟩
      rw [← hdrop, List.takeWhile_append_dropWhile]

/-! ## Occurrences -/

/-- A word that no option starts with; a single hyphen is none. -/
def isValue (word : Bytes) : Prop := word.head? = some hyphen → word = [hyphen]

inductive Written : List Setting → List Bytes → Prop
  | nil : Written [] []
  | closed : Written [] [[hyphen, hyphen]]
  | alone {flag : Flag} {setting : Setting} {settings : List Setting} {words : List Bytes} :
      flag.takesWord = false → readSetting flag (encode "true") = .ok setting →
      Written settings words → Written (setting :: settings) (flag.word :: words)
  | attached {flag : Flag} {value : Bytes} {setting : Setting} {settings : List Setting}
      {words : List Bytes} :
      flag.takesAttached → readSetting flag value = .ok setting →
      Written settings words →
      Written (setting :: settings) ((flag.word ++ equalsSign :: value) :: words)
  | separate {flag : Flag} {value : Bytes} {setting : Setting} {settings : List Setting}
      {words : List Bytes} :
      flag.takesWord → isValue value → readSetting flag value = .ok setting →
      Written settings words → Written (setting :: settings) (flag.word :: value :: words)

theorem flag_of_readSetting {flag : Flag} {value : Bytes} {setting : Setting}
    (h : readSetting flag value = .ok setting) : setting.flag = flag := by
  cases flag with
  | switch s =>
      cases h
      rfl
  | text t =>
      simp only [readSetting] at h
      cases hu : utf8 value with
      | error stop => simp [hu, Except.map] at h
      | ok text =>
          simp only [hu, Except.map, Except.ok.injEq] at h
          rw [← h]
          rfl
  | wait =>
      simp only [readSetting, bind, Except.bind] at h
      cases hu : utf8 value with
      | error stop => simp [hu] at h
      | ok text =>
          simp only [hu] at h
          split at h
          · cases h
            rfl
          · cases h
  | json =>
      simp only [readSetting] at h
      split at h
      · cases h
        rfl
      · cases h
        rfl
      · cases h
  | help | version => cases h

/-- Adds a setting whose option was not given before. -/
def place (setting : Setting) (a : Arguments) : Except Stop Arguments :=
  if setting.flag ∈ a.given then .error (.repeated setting.flag) else .ok (setting.apply a)

def placeAll : List Setting → Arguments → Except Stop Arguments
  | [], a => .ok a
  | setting :: settings, a => (place setting a).bind (placeAll settings)

theorem give_eq_place {flag : Flag} {value : Bytes} {setting : Setting}
    (h : readSetting flag value = .ok setting) (a : Arguments) :
    give flag value a = place setting a := by
  simp only [give, place, flag_of_readSetting h, h]
  rfl

/-! ## Reading what is written -/

theorem readArgument_word (flag : Flag) (s : State) :
    readArgument flag.word s = readLong (encode flag.longName) none s := by
  simp [readArgument, Flag.word, splitEquals_name (equalsSign_notMem_longName flag)]

theorem readArgument_attached (flag : Flag) (value : Bytes) (s : State) :
    readArgument (flag.word ++ equalsSign :: value) s =
      readLong (encode flag.longName) (some value) s := by
  simp [readArgument, Flag.word, splitEquals_value (equalsSign_notMem_longName flag)]

theorem readArgument_value {value : Bytes} (h : isValue value) (s : State) :
    readArgument value s = readWord value s := by
  match value with
  | [] => rfl
  | [_] => rfl
  | a :: b :: rest =>
      have ha : a ≠ hyphen := by
        rintro rfl
        have hone := congrArg List.length (h rfl)
        simp at hone
      simp [readArgument, ha]

theorem readAll_cons {word : Bytes} (h : word ≠ [hyphen, hyphen]) (s : State)
    (words : List Bytes) :
    readAll s (word :: words) = (readArgument word s).bind fun s => readAll s words := by
  simp only [readAll, if_neg h]

theorem word_ne_end (flag : Flag) : flag.word ≠ [hyphen, hyphen] := by
  revert flag
  exact Flag.forall_of_named (by decide)

/-- However the reader stands, it settles the last option and then takes the settings in order. -/
theorem readAll_of_written {settings : List Setting} {words : List Bytes}
    (h : Written settings words) (s : State) :
    readAll s words = (settle s).bind (placeAll settings) := by
  induction h generalizing s with
  | nil =>
      rw [readAll]
      cases settle s <;> rfl
  | closed =>
      simp only [readAll, if_true]
      cases settle s <;> rfl
  | @alone flag setting settings words hword hread _ ih =>
      rw [readAll_cons (word_ne_end flag), readArgument_word]
      simp only [readLong, lookup_longName, hword, give_eq_place hread, placeAll]
      cases settle s with
      | error stop => rfl
      | ok a =>
          simp only [bind, Except.bind, Bool.false_eq_true, if_false]
          cases place setting a with
          | error stop => rfl
          | ok b => exact ih ⟨b, none⟩
  | @attached flag value setting settings words hattached hread _ ih =>
      have hne : flag.word ++ equalsSign :: value ≠ [hyphen, hyphen] := by
        intro heq
        have hlength := congrArg List.length heq
        simp [Flag.word] at hlength
      rw [readAll_cons hne, readArgument_attached]
      simp only [readLong, lookup_longName, hattached, give_eq_place hread, placeAll]
      cases settle s with
      | error stop => rfl
      | ok a =>
          simp only [bind, Except.bind, if_true]
          cases place setting a with
          | error stop => rfl
          | ok b => exact ih ⟨b, none⟩
  | @separate flag value setting settings words hword hvalue hread _ ih =>
      have hne : value ≠ [hyphen, hyphen] := by
        rintro rfl
        have hone := congrArg List.length (hvalue rfl)
        simp at hone
      rw [readAll_cons (word_ne_end flag), readArgument_word]
      simp only [readLong, lookup_longName, hword]
      cases settle s with
      | error stop => rfl
      | ok a =>
          simp only [bind, Except.bind, if_true]
          change readAll ⟨a, some (flag, none)⟩ (value :: words) = placeAll (setting :: settings) a
          rw [readAll_cons hne, readArgument_value hvalue, readWord]
          change readAll ⟨a, some (flag, some value)⟩ words = _
          rw [ih]
          simp only [settle, give_eq_place hread, placeAll]

theorem parse_of_written {settings : List Setting} {words : List Bytes}
    (h : Written settings words) :
    parse words = (placeAll settings .none).bind checkNetworks := by
  rw [parse, readAll_of_written h]
  rfl

/-! ## Nothing else is read -/

/-- What an option does that is recognized when the last one has been settled. -/
inductive Recognized (a : Arguments) : Bytes → State → Prop
  | waits {flag : Flag} : flag.takesWord → Recognized a flag.word ⟨a, some (flag, none)⟩
  | alone {flag : Flag} {setting : Setting} {b : Arguments} :
      flag.takesWord = false → readSetting flag (encode "true") = .ok setting →
      Recognized a flag.word ⟨b, none⟩
  | attached {flag : Flag} {value : Bytes} {setting : Setting} {b : Arguments} :
      flag.takesAttached → readSetting flag value = .ok setting →
      Recognized a (flag.word ++ equalsSign :: value) ⟨b, none⟩

theorem exists_of_bind_eq_ok {ε α β : Type} {x : Except ε α} {f : α → Except ε β} {b : β}
    (h : x >>= f = .ok b) : ∃ a, x = .ok a ∧ f a = .ok b := by
  cases x with
  | error e => cases h
  | ok a => exact ⟨a, rfl, h⟩

theorem exists_of_give_eq_ok {flag : Flag} {value : Bytes} {a b : Arguments}
    (h : give flag value a = .ok b) : ∃ setting, readSetting flag value = .ok setting := by
  unfold give at h
  split at h
  · cases h
  · cases hread : readSetting flag value with
    | error stop =>
        rw [hread] at h
        cases h
    | ok setting => exact ⟨setting, rfl⟩

theorem readLong_word_cases {name : Bytes} {s s' : State} (h : readLong name none s = .ok s') :
    ∃ a, settle s = .ok a ∧ Recognized a (hyphen :: hyphen :: name) s' := by
  unfold readLong at h
  split at h
  · cases h
  · rename_i flag hflag
    obtain rfl := eq_encode_longName hflag
    obtain ⟨a, ha, h⟩ := exists_of_bind_eq_ok h
    refine ⟨a, ha, ?_⟩
    by_cases hword : flag.takesWord
    · rw [if_pos hword] at h
      cases h
      exact .waits hword
    · rw [if_neg hword] at h
      obtain ⟨b, hb, h⟩ := exists_of_bind_eq_ok h
      obtain ⟨setting, hread⟩ := exists_of_give_eq_ok hb
      cases h
      exact .alone (Bool.eq_false_iff.mpr hword) hread

theorem readLong_attached_cases {name value : Bytes} {s s' : State}
    (h : readLong name (some value) s = .ok s') :
    ∃ a, settle s = .ok a ∧
      Recognized a (hyphen :: hyphen :: (name ++ equalsSign :: value)) s' := by
  unfold readLong at h
  split at h
  · cases h
  · rename_i flag hflag
    obtain rfl := eq_encode_longName hflag
    by_cases hattached : flag.takesAttached
    · simp only [if_pos hattached] at h
      obtain ⟨a, ha, h⟩ := exists_of_bind_eq_ok h
      obtain ⟨b, hb, h⟩ := exists_of_bind_eq_ok h
      obtain ⟨setting, hread⟩ := exists_of_give_eq_ok hb
      cases h
      exact ⟨a, ha, .attached hattached hread⟩
    · simp only [if_neg hattached] at h
      cases h

theorem readShort_ne_ok (b : UInt8) (rest : Bytes) (s s' : State) :
    readShort (b :: rest) s ≠ .ok s' := by
  intro h
  simp only [readShort] at h
  split at h
  · cases h
  · cases hs : settle s <;> simp [hs, Except.bind] at h
  · cases hs : settle s <;> simp [hs, Except.bind] at h
  · cases h

/-- A word that does not end the reading is an option, or the value of the last one. -/
theorem readArgument_cases {word : Bytes} {s s' : State} (h : readArgument word s = .ok s') :
    (∃ a, settle s = .ok a ∧ Recognized a word s') ∨
      (isValue word ∧ ∃ flag, s.pending = some (flag, none) ∧
        s' = ⟨s.arguments, some (flag, some word)⟩) := by
  have hvalue (hw : isValue word) : (∃ a, settle s = .ok a ∧ Recognized a word s') ∨
      (isValue word ∧ ∃ flag, s.pending = some (flag, none) ∧
        s' = ⟨s.arguments, some (flag, some word)⟩) := by
    right
    refine ⟨hw, ?_⟩
    rw [readArgument_value hw, readWord] at h
    split at h
    · rename_i flag hpending
      cases h
      exact ⟨flag, hpending, rfl⟩
    · cases h
  match word with
  | [] => exact hvalue (by simp [isValue])
  | [_] => exact hvalue (by simp [isValue])
  | a :: b :: rest =>
      by_cases ha : a = hyphen
      · by_cases hb : b = hyphen
        · left
          subst ha hb
          have hlong : readLong (splitEquals rest).1 (splitEquals rest).2 s = .ok s' := by
            simpa [readArgument] using h
          rcases eq_of_splitEquals rest with hsplit | ⟨name, value, hsplit, rfl⟩
          · rw [hsplit] at hlong
            exact readLong_word_cases hlong
          · rw [hsplit] at hlong
            exact readLong_attached_cases hlong
        · simp only [readArgument, ha, hb, and_false, if_false, if_true] at h
          exact absurd h (readShort_ne_ok b rest s s')
      · exact hvalue (by simp [isValue, ha])

/-- What is left to read is the value the last option waits for, if it does, and occurrences. -/
def Continues (pending : Option (Flag × Option Bytes)) (words : List Bytes) : Prop :=
  match pending with
  | none => ∃ settings, Written settings words
  | some (flag, some value) =>
      (∃ setting, readSetting flag value = .ok setting) ∧ ∃ settings, Written settings words
  | some (flag, none) => ∃ value rest setting settings, words = value :: rest ∧ isValue value ∧
      readSetting flag value = .ok setting ∧ Written settings rest

theorem continues_of_settle {s : State} {a : Arguments} {settings : List Setting}
    {words : List Bytes} (hs : settle s = .ok a) (h : Written settings words) :
    Continues s.pending words := by
  unfold settle at hs
  split at hs
  · rename_i hpending
    rw [hpending]
    exact ⟨settings, h⟩
  · rename_i flag value hpending
    rw [hpending]
    exact ⟨exists_of_give_eq_ok hs, settings, h⟩
  · cases hs

theorem continues_of_readAll {words : List Bytes} {s : State} {a : Arguments}
    (h : readAll s words = .ok a) : Continues s.pending words := by
  induction words generalizing s with
  | nil =>
      rw [readAll] at h
      exact continues_of_settle h .nil
  | cons word words ih =>
      by_cases hend : word = [hyphen, hyphen]
      · subst hend
        cases words with
        | nil =>
            simp only [readAll, if_true] at h
            exact continues_of_settle h .closed
        | cons next words =>
            simp only [readAll, if_true] at h
            cases h
      · rw [readAll_cons hend] at h
        obtain ⟨s', hs', h⟩ := exists_of_bind_eq_ok h
        have hrest := ih h
        rcases readArgument_cases hs' with ⟨b, hb, hrecognized⟩ | ⟨hvalue, flag, hpending, rfl⟩
        · cases hrecognized with
          | waits hword =>
              obtain ⟨value, rest, setting, settings, rfl, hvalue, hread, hwritten⟩ := hrest
              exact continues_of_settle hb (.separate hword hvalue hread hwritten)
          | alone hword hread =>
              obtain ⟨settings, hwritten⟩ := hrest
              exact continues_of_settle hb (.alone hword hread hwritten)
          | attached hattached hread =>
              obtain ⟨settings, hwritten⟩ := hrest
              exact continues_of_settle hb (.attached hattached hread hwritten)
        · obtain ⟨⟨setting, hread⟩, settings, hwritten⟩ := hrest
          rw [hpending]
          exact ⟨word, words, setting, settings, rfl, hvalue, hread, hwritten⟩

/-- A command line that is accepted is written as occurrences. -/
theorem written_of_parse {words : List Bytes} {a : Arguments} (h : parse words = .ok a) :
    ∃ settings, Written settings words := by
  obtain ⟨b, hb, -⟩ := exists_of_bind_eq_ok h
  exact continues_of_readAll hb

end BuilderRelay.CommandLine
