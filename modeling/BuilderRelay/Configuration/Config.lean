import BuilderRelay.Configuration.CommandLine
import BuilderRelay.Diagnostics.Log
import BuilderRelay.Startup.NetworkChoice
import BuilderRelay.Text.Duration
import BuilderRelay.Text.Quoted

/-!
# Configuration

Every setting comes from its option if that was given, else from its environment variable if that
is set, else it has a default. The secret key is never shown.
-/

namespace BuilderRelay

abbrev Environment := String → Option String

namespace Environment

/-- The value of a process variable, unless it is empty or no text. -/
def usable (value : Option Bytes) : Option String := do
  let text ← Utf8.decode (← value)
  if text.isEmpty then none else some text

def ofProcess (vars : String → Option Bytes) : Environment := fun name =>
  usable (vars name)

end Environment

def secretKeyText (key : String) : String :=
  if key.isEmpty then "SecretKeyHex(<unset>)" else "SecretKeyHex(<redacted>)"

structure Config where
  listenAddr : String
  beaconUri : String
  redisUri : String
  logJson : Bool
  logLevel : LogLevel
  pprof : Bool
  /-- How long getHeader requests wait, in milliseconds. -/
  getHeaderWait : UInt64
  secretKey : String
  network : NetworkSources
  deriving DecidableEq

namespace Config

def defaultListenAddr : String := "localhost:9062"
def defaultRedisUri : String := "localhost:6379"
def defaultLogLevel : String := "info"
def defaultGetHeaderWait : UInt64 := 500

open CommandLine (Arguments)

def logLevelName (a : Arguments) (env : Environment) : String :=
  ((a.texts .logLevel).or (env "LOG_LEVEL")).getD defaultLogLevel

def customForkVersion (a : Arguments) (env : Environment) : Option CustomForkVersion :=
  match a.texts .genesisForkVersion with
  | some value => some ⟨value, .flag⟩
  | none => (env "GENESIS_FORK_VERSION").map (⟨·, .environment⟩)

/-- The configuration of a command line in an environment. Only the log level can be wrong. -/
def resolve (a : Arguments) (env : Environment) : Except StartupError Config :=
  match LogLevel.read (logLevelName a env) with
  | none => .error (.invalidLogLevel (logLevelName a env))
  | some logLevel => .ok {
      listenAddr := (a.texts .listenAddr).getD defaultListenAddr
      beaconUri := ((a.texts .beaconUri).or (env "BEACON_URI")).getD ""
      redisUri := ((a.texts .redisUri).or (env "REDIS_URI")).getD defaultRedisUri
      logJson := a.json.getD (env "LOG_JSON").isSome
      logLevel
      pprof := a.switches .pprof
      getHeaderWait := a.waitMs.getD defaultGetHeaderWait
      secretKey := (a.texts .secretKey).getD ""
      network := {
        custom := customForkVersion a env
        mainnet := a.switches .mainnet
        kiln := a.switches .kiln
        ropsten := a.switches .ropsten
        sepolia := a.switches .sepolia } }

end Config

/-! ## Texts for diagnostics -/

def Origin.debugText : Origin → String
  | flag => "Flag"
  | environment => "Environment"

def CustomForkVersion.debugText (c : CustomForkVersion) : String :=
  s!"CustomForkVersion \x7b value: {Text.quote c.value}, origin: {c.origin.debugText} \x7d"

def NetworkSources.debugText (s : NetworkSources) : String :=
  let custom := match s.custom with
    | some c => "Some(" ++ c.debugText ++ ")"
    | none => "None"
  s!"NetworkSources \x7b custom: {custom}, mainnet: {s.mainnet}, kiln: {s.kiln}, " ++
    s!"ropsten: {s.ropsten}, sepolia: {s.sepolia} \x7d"

def Config.debugText (c : Config) : String :=
  s!"Config \x7b listen_addr: {Text.quote c.listenAddr}, beacon_uri: {Text.quote c.beaconUri}, " ++
    s!"redis_uri: {Text.quote c.redisUri}, log_json: {c.logJson}, " ++
    s!"log_level: LevelFilter::{c.logLevel.upperName}, pprof: {c.pprof}, " ++
    s!"getheader_wait: {Text.duration c.getHeaderWait.toNat}, " ++
    s!"secret_key: {secretKeyText c.secretKey}, network: {c.network.debugText} \x7d"

end BuilderRelay
