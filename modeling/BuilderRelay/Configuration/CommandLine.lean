import BuilderRelay.Configuration.Help
import BuilderRelay.Text.Number
import BuilderRelay.Text.Terminal
import BuilderRelay.Text.Utf8

/-!
# The command line

Arguments are read from the left. A word that looks like an option is one; any other word is the
value of the option before it, if that one still waits for its value. What is wrong with an option
and its value is reported when the next option is recognized, or at the end; what is no option is
reported at once. Conflicts between the networks are looked for when everything has been read.
-/

namespace BuilderRelay.CommandLine

inductive Switch where
  | pprof
  | mainnet
  | kiln
  | ropsten
  | sepolia
  deriving DecidableEq, Repr

inductive TextOption where
  | listenAddr
  | beaconUri
  | redisUri
  | secretKey
  | logLevel
  | genesisForkVersion
  deriving DecidableEq, Repr

inductive Flag where
  | switch (s : Switch)
  | text (t : TextOption)
  | wait
  | json
  | help
  | version
  deriving DecidableEq, Repr

def longNames : List (String × Flag) := [
  ("listen-addr", .text .listenAddr),
  ("beacon-uri", .text .beaconUri),
  ("redis-uri", .text .redisUri),
  ("pprof", .switch .pprof),
  ("getheader-wait-ms", .wait),
  ("secret-key", .text .secretKey),
  ("json", .json),
  ("loglevel", .text .logLevel),
  ("mainnet", .switch .mainnet),
  ("kiln", .switch .kiln),
  ("ropsten", .switch .ropsten),
  ("sepolia", .switch .sepolia),
  ("genesis-fork-version", .text .genesisForkVersion),
  ("help", .help),
  ("version", .version)]

def Switch.usage : Switch → String
  | pprof => "--pprof"
  | mainnet => "--mainnet"
  | kiln => "--kiln"
  | ropsten => "--ropsten"
  | sepolia => "--sepolia"

def TextOption.usage : TextOption → String
  | listenAddr => "--listen-addr <LISTEN_ADDR>"
  | beaconUri => "--beacon-uri <BEACON_URI>"
  | redisUri => "--redis-uri <REDIS_URI>"
  | secretKey => "--secret-key <SECRET_KEY>"
  | logLevel => "--loglevel <LOG_LEVEL>"
  | genesisForkVersion => "--genesis-fork-version <GENESIS_FORK_VERSION>"

def Flag.usage : Flag → String
  | switch s => s.usage
  | text t => t.usage
  | wait => "--getheader-wait-ms <GETHEADER_WAIT_MS>"
  | json => "--json[=<JSON>]"
  | help => "--help"
  | version => "--version"

/-- Whether the option selects a network; at most one may be given. -/
def Flag.selectsNetwork : Flag → Bool
  | switch .mainnet => true
  | switch .kiln => true
  | switch .ropsten => true
  | switch .sepolia => true
  | text .genesisForkVersion => true
  | _ => false

inductive Stop where
  | repeated (flag : Flag)
  | conflict (flag : Flag) (others : List Flag)
  | unknown (argument : String)
  | missingValue (flag : Flag)
  | notBoolean (flag : Flag) (value : String)
  | notNumber (flag : Flag) (value : String) (fault : Text.NumberFault)
  | unneededValue (flag : Flag) (value : String)
  | invalidUtf8
  | help
  | version
  deriving DecidableEq, Repr

namespace Stop

def kind : Stop → String
  | repeated _ => "ArgumentConflict"
  | conflict _ _ => "ArgumentConflict"
  | unknown _ => "UnknownArgument"
  | missingValue _ => "InvalidValue"
  | notBoolean _ _ => "InvalidValue"
  | notNumber _ _ _ => "ValueValidation"
  | unneededValue _ _ => "TooManyValues"
  | invalidUtf8 => "InvalidUtf8"
  | help => "DisplayHelp"
  | version => "DisplayVersion"

def exitCode : Stop → Nat
  | help => 0
  | version => 0
  | _ => 2

def rawMessage : Stop → String
  | repeated flag => s!"error: the argument '{flag.usage}' cannot be used multiple times"
  | conflict flag [other] =>
      s!"error: the argument '{flag.usage}' cannot be used with '{other.usage}'"
  | conflict flag _ => s!"error: the argument '{flag.usage}' cannot be used with:"
  | unknown argument => s!"error: unexpected argument '{argument}' found"
  | missingValue flag => s!"error: a value is required for '{flag.usage}' but none was supplied"
  | notBoolean flag "" => s!"error: a value is required for '{flag.usage}' but none was supplied"
  | notBoolean flag value => s!"error: invalid value '{value}' for '{flag.usage}'"
  | notNumber flag value fault =>
      s!"error: invalid value '{value}' for '{flag.usage}': {fault.message}"
  | unneededValue flag value =>
      s!"error: unexpected value '{value}' for '{flag.usage}' found; no more were expected"
  | invalidUtf8 => "error: invalid UTF-8 was detected in one or more arguments"
  | help => helpText
  | version => versionText

/-- The whole text for help and version, and the first line of any other message. -/
def message (s : Stop) : String :=
  match s with
  | help => helpText
  | version => versionText
  | s => Text.firstLine (Text.withoutControl s.rawMessage)

end Stop

structure Arguments where
  switches : Switch → Bool
  texts : TextOption → Option String
  waitMs : Option UInt64
  json : Option Bool
  /-- The options in the order they were given. -/
  given : List Flag

namespace Arguments

def none : Arguments := ⟨fun _ => false, fun _ => .none, .none, .none, []⟩

def setSwitch (s : Switch) (a : Arguments) : Arguments :=
  { a with switches := fun x => if x = s then true else a.switches x }

def setText (t : TextOption) (value : String) (a : Arguments) : Arguments :=
  { a with texts := fun x => if x = t then some value else a.texts x }

end Arguments

inductive Setting where
  | switch (s : Switch)
  | text (t : TextOption) (value : String)
  | wait (ms : UInt64)
  | json (b : Bool)
  deriving DecidableEq, Repr

def Setting.flag : Setting → Flag
  | switch s => .switch s
  | text t _ => .text t
  | wait _ => .wait
  | json _ => .json

def Setting.apply (s : Setting) (a : Arguments) : Arguments :=
  let a := { a with given := a.given ++ [s.flag] }
  match s with
  | switch s => a.setSwitch s
  | text t value => a.setText t value
  | wait ms => { a with waitMs := some ms }
  | json b => { a with json := some b }

def utf8 (value : Bytes) : Except Stop String :=
  match Utf8.decode value with
  | some s => .ok s
  | none => .error .invalidUtf8

def readSetting (flag : Flag) (value : Bytes) : Except Stop Setting :=
  match flag with
  | .switch s => .ok (.switch s)
  | .text t => (utf8 value).map (.text t)
  | .wait => do
      let text ← utf8 value
      match Text.readUInt64 text with
      | .ok ms => .ok (.wait ms)
      | .error fault => .error (.notNumber .wait text fault)
  | .json =>
      match Utf8.decodeLossy value with
      | "true" => .ok (.json true)
      | "false" => .ok (.json false)
      | text => .error (.notBoolean .json text)
  | .help => .error .help
  | .version => .error .version

/-- Gives a flag a value. That it has been given before is found before the value is read. -/
def give (flag : Flag) (value : Bytes) (a : Arguments) : Except Stop Arguments :=
  if flag ∈ a.given then .error (.repeated flag)
  else (readSetting flag value).map fun setting => setting.apply a

/-- The arguments so far and the last option, whose value is the next word if it is none yet. -/
structure State where
  arguments : Arguments
  pending : Option (Flag × Option Bytes)

/-- Recognizes another option, or the end: the last option is given its value, or lacks it. -/
def settle (s : State) : Except Stop Arguments :=
  match s.pending with
  | none => .ok s.arguments
  | some (flag, some value) => give flag value s.arguments
  | some (flag, none) => .error (.missingValue flag)

def Flag.takesWord : Flag → Bool
  | text _ => true
  | wait => true
  | _ => false

def Flag.takesAttached : Flag → Bool
  | text _ => true
  | wait => true
  | json => true
  | _ => false

def readLong (name : Bytes) (attached : Option Bytes) (s : State) : Except Stop State :=
  match longNames.lookup (Utf8.decodeLossy name) with
  | none => .error (.unknown ("--" ++ Utf8.decodeLossy name))
  | some flag =>
      match attached with
      | some value =>
          if flag.takesAttached then do
            let a ← settle s
            return ⟨← give flag value a, none⟩
          else .error (.unneededValue flag (Utf8.decodeLossy value))
      | none => do
          let a ← settle s
          if flag.takesWord then return ⟨a, some (flag, none)⟩
          else return ⟨← give flag (Utf8.encode "true") a, none⟩

def readShort (letters : Bytes) (s : State) : Except Stop State :=
  match letters with
  | [] => .ok s
  | b :: rest =>
      match Utf8.firstSequence b rest with
      | (_, none) => .error (.unknown ("-" ++ Utf8.decodeLossy letters))
      | (_, some 'h') => (settle s).bind fun _ => .error .help
      | (_, some 'V') => (settle s).bind fun _ => .error .version
      | (_, some c) => .error (.unknown (.ofList ['-', c]))

def hyphen : UInt8 := 0x2d
def equalsSign : UInt8 := 0x3d

def readWord (word : Bytes) (s : State) : Except Stop State :=
  match s.pending with
  | some (flag, none) => .ok { s with pending := some (flag, some word) }
  | _ => .error (.unknown (Utf8.decodeLossy word))

def splitEquals (bytes : Bytes) : Bytes × Option Bytes :=
  match bytes.dropWhile (· ≠ equalsSign) with
  | [] => (bytes, none)
  | _ :: value => (bytes.takeWhile (· ≠ equalsSign), some value)

def readArgument (word : Bytes) (s : State) : Except Stop State :=
  match word with
  | a :: b :: rest =>
      if a = hyphen ∧ b = hyphen then readLong (splitEquals rest).1 (splitEquals rest).2 s
      else if a = hyphen then readShort (b :: rest) s
      else readWord word s
  | _ => readWord word s

/-- Reads arguments up to the first that ends the reading. After two hyphens there are no options,
and nothing else is expected. -/
def readAll (s : State) : List Bytes → Except Stop Arguments
  | [] => settle s
  | word :: rest =>
      if word = [hyphen, hyphen] then
        match rest with
        | [] => settle s
        | next :: _ => .error (.unknown (Utf8.decodeLossy next))
      else (readArgument word s).bind fun s => readAll s rest

def checkNetworks (a : Arguments) : Except Stop Arguments :=
  match a.given.filter Flag.selectsNetwork with
  | flag :: other :: others => .error (.conflict flag (other :: others))
  | _ => .ok a

def parse (words : List Bytes) : Except Stop Arguments :=
  (readAll ⟨.none, none⟩ words).bind checkNetworks

end BuilderRelay.CommandLine
