import BuilderRelay.Diagnostics.Report

/-!
# Startup errors

Every way startup can fail. Each failure belongs to one stage of the startup sequence and to one
broad class, and all of them are fatal.
-/

namespace BuilderRelay

inductive Stage where
  | config
  | networkIdentity
  | beaconSync
  | datastore
  | keyMaterial
  | serviceConstruction
  | serve
  deriving DecidableEq, Repr

def Stage.name : Stage → String
  | config => "config"
  | networkIdentity => "network-identity"
  | beaconSync => "beacon-sync"
  | datastore => "datastore"
  | keyMaterial => "key-material"
  | serviceConstruction => "service-construction"
  | serve => "serve"

/-- Whether the operator's input, a system the relay depends on, or the service itself is at
fault. -/
inductive ErrorKind where
  | configuration
  | dependency
  | service
  deriving DecidableEq, Repr

def ErrorKind.name : ErrorKind → String
  | configuration => "Configuration"
  | dependency => "Dependency"
  | service => "Service"

inductive StartupError where
  | invalidLogLevel (text : String)
  | noNetworkSelected
  | conflictingNetworks (names : List String)
  | invalidForkVersion (value : String) (reason : Report)
  | invalidBeaconUri (uri : String) (reason : Report)
  | beaconNotReady (reason : Report)
  | cacheUnavailable (uri : String) (reason : Report)
  | malformedSecretKey (reason : Report)
  | invalidSecretKey (reason : Report)
  | serviceConstruction (reason : Report)
  | serve (reason : Report)
  deriving DecidableEq, Repr

namespace StartupError

def stage : StartupError → Stage
  | invalidLogLevel _ => .config
  | noNetworkSelected => .networkIdentity
  | conflictingNetworks _ => .networkIdentity
  | invalidForkVersion _ _ => .networkIdentity
  | invalidBeaconUri _ _ => .beaconSync
  | beaconNotReady _ => .beaconSync
  | cacheUnavailable _ _ => .datastore
  | malformedSecretKey _ => .keyMaterial
  | invalidSecretKey _ => .keyMaterial
  | serviceConstruction _ => .serviceConstruction
  | serve _ => .serve

def kind : StartupError → ErrorKind
  | invalidLogLevel _ => .configuration
  | noNetworkSelected => .configuration
  | conflictingNetworks _ => .configuration
  | invalidForkVersion _ _ => .configuration
  | invalidBeaconUri _ _ => .configuration
  | malformedSecretKey _ => .configuration
  | invalidSecretKey _ => .configuration
  | beaconNotReady _ => .dependency
  | cacheUnavailable _ _ => .dependency
  | serviceConstruction _ => .service
  | serve _ => .service

def name : StartupError → String
  | invalidLogLevel _ => "InvalidLogLevel"
  | noNetworkSelected => "NoNetworkSelected"
  | conflictingNetworks _ => "ConflictingNetworks"
  | invalidForkVersion _ _ => "InvalidForkVersion"
  | invalidBeaconUri _ _ => "InvalidBeaconUri"
  | beaconNotReady _ => "BeaconNotReady"
  | cacheUnavailable _ _ => "CacheUnavailable"
  | malformedSecretKey _ => "MalformedSecretKey"
  | invalidSecretKey _ => "InvalidSecretKey"
  | serviceConstruction _ => "ServiceConstruction"
  | serve _ => "Serve"

def message : StartupError → String
  | invalidLogLevel text =>
      s!"invalid log level '{text}' (expected trace, debug, info, warn, warning, error, fatal or panic)"
  | noNetworkSelected =>
      "no genesis fork version selected (use --mainnet, --kiln, --ropsten, --sepolia or --genesis-fork-version)"
  | conflictingNetworks names =>
      "conflicting genesis fork version selections: " ++ ", ".intercalate names
  | invalidForkVersion value reason =>
      s!"invalid custom genesis fork version '{value}': {reason.message}"
  | invalidBeaconUri uri reason => s!"invalid beacon node URI '{uri}': {reason.message}"
  | beaconNotReady reason => s!"beacon node is not ready: {reason.message}"
  | cacheUnavailable uri reason => s!"failed to connect to redis at {uri}: {reason.message}"
  | malformedSecretKey reason => s!"incorrect secret key provided: {reason.message}"
  | invalidSecretKey reason => s!"incorrect builder API secret key provided: {reason.message}"
  | serviceConstruction reason => s!"failed to create service: {reason.message}"
  | serve reason => s!"server stopped: {reason.message}"

end StartupError

end BuilderRelay
