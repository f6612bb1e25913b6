import BuilderRelay.Configuration.Config
import BuilderRelay.Relay.Listen
import BuilderRelay.Startup.NetworkChoice

/-!
# Startup

The stages of startup, each of which takes what the one before it made: the network is chosen, the
beacon node is asked whether it is synced, the cache is connected, the key is loaded, and the relay
is made. The first failure ends startup; nothing is tried twice.
-/

namespace BuilderRelay

/-- The systems that the relay depends on: what requests and connections to them come to, and what
comes of listening for clients. -/
structure Dependencies where
  get : String → HttpOutcome
  connect : String → Except Report Cache
  listen : String → Listening := Listening.onFreeHost

structure Resolved where
  config : Config
  network : Network
  deriving DecidableEq

structure BeaconVerified where
  resolved : Resolved
  beacon : BeaconClient

structure DatastoreConnected where
  verified : BeaconVerified
  cache : Cache

/-- A secret key that is one. -/
structure KeyLoaded where
  connected : DatastoreConnected
  key : Bls.SecretKey

namespace Startup

/-- How long a request to the beacon node may take, in seconds. -/
def beaconTimeout : UInt64 := 30

def resolve (config : Config) : Attempt StartupError Resolved := do
  let network ← Attempt.require config.network.select
  .info "Using genesis fork version" [("network", network.text)]
  return { config, network }

def verifyBeacon (get : String → HttpOutcome) (r : Resolved) :
    Attempt StartupError BeaconVerified := do
  let uri := r.config.beaconUri
  .info "Using beacon endpoint" [("endpoint", uri)]
  let beacon ← Attempt.require <| (BeaconClient.create ⟨uri, beaconTimeout⟩).mapError fun fault =>
    .invalidBeaconUri uri fault.report
  let status ← (beacon.syncStatus get).mapError fun fault => .beaconNotReady fault.report
  .info "Beacon node is synced" [("head_slot", toString status.headSlot)]
  return { resolved := r, beacon }

def connectDatastore (connect : String → Except Report Cache) (v : BeaconVerified) :
    Attempt StartupError DatastoreConnected := do
  let uri := v.resolved.config.redisUri
  let cache ← Attempt.called (.connect uri) ((connect uri).mapError (.cacheUnavailable uri))
  .info "Connected to Redis" [("uri", uri)]
  return { verified := v, cache }

/-- The key of a text. Text that is no encoding and bytes that are no key fail differently. -/
def readKey (text : String) : Except StartupError Bls.SecretKey :=
  match Signing.decodeKeyText text with
  | .error fault => .error (.malformedSecretKey (.plain fault.message))
  | .ok bytes =>
      (Signing.secretKeyOfBytes bytes).mapError fun fault =>
        .invalidSecretKey (.plain fault.message)

def loadKey (bls : Bls.Scheme) (c : DatastoreConnected) : Attempt StartupError KeyLoaded := do
  let key ← Attempt.require (readKey c.verified.resolved.config.secretKey)
  .info "Loaded relay signing key" [("pubkey", Hex.encodePrefixed (bls.publicKey key).toList)]
  return { connected := c, key }

def stages (bls : Bls.Scheme) (d : Dependencies) (config : Config) :
    Attempt StartupError KeyLoaded := do
  let resolved ← resolve config
  let verified ← verifyBeacon d.get resolved
  let connected ← connectDatastore d.connect verified
  loadKey bls connected

end Startup

def KeyLoaded.options (k : KeyLoaded) : RelayOptions :=
  let resolved := k.connected.verified.resolved
  { listenAddr := resolved.config.listenAddr
    beacon := k.connected.verified.beacon
    network := resolved.network
    pprof := resolved.config.pprof
    getHeaderWait := resolved.config.getHeaderWait
    key := k.key }

structure Prepared where
  relay : Relay
  cache : Cache

namespace Startup

/-- The whole of startup. -/
def prepare (bls : Bls.Scheme) (d : Dependencies) (config : Config) :
    Attempt StartupError Prepared := do
  let loaded ← stages bls d config
  let relay ← (Relay.create bls loaded.options).mapError .serviceConstruction
  return { relay, cache := loaded.connected.cache }

end Startup

/-! ## Texts for diagnostics -/

def ForkVersion.debugText (v : ForkVersion) : String :=
  "GenesisForkVersion([" ++ ", ".intercalate (v.bytes.toList.map fun b => toString b.toNat) ++ "])"

def Network.debugText : Network → String
  | mainnet => "Mainnet"
  | kiln => "Kiln"
  | ropsten => "Ropsten"
  | sepolia => "Sepolia"
  | custom version => "Custom(" ++ version.debugText ++ ")"

def Resolved.debugText (r : Resolved) : String :=
  s!"Resolved \x7b config: {r.config.debugText}, network: {r.network.debugText} \x7d"

end BuilderRelay
