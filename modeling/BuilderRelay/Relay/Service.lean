import BuilderRelay.Beacon.Client
import BuilderRelay.Network
import BuilderRelay.Relay.Metrics
import BuilderRelay.Signing.Keys
import BuilderRelay.Storage.Cache

/-!
# The relay

What a relay is made of, what others can see of it, and the state that its requests act on.
-/

namespace BuilderRelay

structure RelayOptions where
  listenAddr : String
  beacon : BeaconClient
  network : Network
  pprof : Bool
  /-- How long header requests wait, in milliseconds. -/
  getHeaderWait : UInt64
  key : Bls.SecretKey

structure Relay where
  listenAddr : String
  beacon : BeaconClient
  builderDomain : Root
  pprof : Bool
  getHeaderWait : UInt64
  key : Bls.SecretKey

/-- A relay as others see it: the secret key only shows as its public key. -/
structure RelaySummary where
  listenAddr : String
  endpoint : String
  builderDomain : Root
  getHeaderWait : UInt64
  publicKey : Bls.PublicKey
  deriving DecidableEq

structure RelayState where
  cache : Cache
  metrics : Metrics

namespace Relay

/-- A relay needs an address to listen on. -/
def create (bls : Bls.Scheme) (o : RelayOptions) : Attempt Report Relay := do
  if Text.isBlank o.listenAddr then .require (.error (.plain "listen address is empty"))
  else
    let domain := Signing.builderDomain o.network.forkVersion
    .info "Relay service configured" [
      ("network", o.network.text),
      ("domain", Hex.encodePrefixed domain.toList),
      ("relay_pubkey", Hex.encodePrefixed (bls.publicKey o.key).toList)]
    return {
      listenAddr := o.listenAddr
      beacon := o.beacon
      builderDomain := domain
      pprof := o.pprof
      getHeaderWait := o.getHeaderWait
      key := o.key }

def summary (bls : Bls.Scheme) (r : Relay) : RelaySummary where
  listenAddr := r.listenAddr
  endpoint := r.beacon.endpoint
  builderDomain := r.builderDomain
  getHeaderWait := r.getHeaderWait
  publicKey := bls.publicKey r.key

end Relay

end BuilderRelay
