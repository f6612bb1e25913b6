import BuilderRelay.Http.Message
import BuilderRelay.Relay.Service
import BuilderRelay.Storage.Datastore

/-!
# Handlers

What requests do once their input has been read. A handler counts its request first and its response
last. Registrations are all verified before the first of them is stored, and storing stops at the
first failure. No bids are held, so there is never a header to return.
-/

namespace BuilderRelay

/-- What is seen of one request: the answer, how long the relay waited before it, in milliseconds,
the cache calls and the log. -/
structure Exchange where
  response : Http.Response
  waited : Nat
  calls : List CacheCall
  log : List LogEvent
  deriving DecidableEq, Repr

def Exchange.ofResponse (response : Http.Response) : Exchange := ⟨response, 0, [], []⟩

namespace Relay

def countStart (e : Endpoint) (s : RelayState) : RelayState :=
  { s with metrics := s.metrics.start e }

def countFinish (e : Endpoint) (status : Nat) (s : RelayState) : RelayState :=
  { s with metrics := s.metrics.finish e status }

def countRegistration (o : Metrics.RegistrationOutcome) (s : RelayState) : RelayState :=
  { s with metrics := s.metrics.countRegistration o }

/-- Counts a response that needs nothing else. -/
def respond (e : Endpoint) (response : Http.Response) (s : RelayState) : RelayState × Exchange :=
  (countFinish e response.status s, .ofResponse response)

def handleStatus (s : RelayState) : RelayState × Exchange :=
  respond .status (.ofStatus 200) (countStart .status s)

/-! ## Registrations -/

/-- The first registration that does not verify, and why. -/
def firstRejected (bls : Bls.Scheme) (domain : Root) :
    List Registration → Option (Registration × Bls.Rejection)
  | [] => none
  | r :: rest =>
      match Signing.verifyRegistration bls domain r with
      | .error reason => some (r, reason)
      | .ok () => firstRejected bls domain rest

structure Storing where
  state : RelayState
  calls : List CacheCall
  failure : Option Report

/-- Stores registrations in order, up to the first that cannot be stored, and counts those that
can. -/
def storeAll (s : RelayState) : List Registration → Storing
  | [] => ⟨s, [], none⟩
  | r :: rest =>
      let outcome := Datastore.set r s.cache
      let s := { s with cache := outcome.cache }
      match outcome.result with
      | .error reason => ⟨s, outcome.calls, some reason⟩
      | .ok () =>
          let later := storeAll (countRegistration .stored s) rest
          { later with calls := outcome.calls ++ later.calls }

def rejectedEvent (publicKey reason : String) : LogEvent :=
  ⟨.warn, "Rejected validator registration", [("pubkey", publicKey), ("error", reason)]⟩

def rejectRegistration (r : Registration) (reason : Bls.Rejection) (s : RelayState) :
    RelayState × Exchange :=
  let publicKey := Hex.encodePrefixed r.message.publicKey.toList
  let reason := Signing.rejectionMessage reason
  let (s, exchange) := respond .registerValidators
    (.ofText 400 s!"invalid signature for {publicKey}: {reason}") (countRegistration .invalid s)
  (s, { exchange with log := [rejectedEvent publicKey reason] })

def storeRegistrations (registrations : List Registration) (s : RelayState) :
    RelayState × Exchange :=
  let storing := storeAll s registrations
  let response : Http.Response :=
    match storing.failure with
    | none => .ofStatus 200
    | some reason => .ofText 500 ("failed to store registration: " ++ reason.headline)
  let (s, exchange) := respond .registerValidators response storing.state
  (s, { exchange with calls := storing.calls })

def handleRegistrations (bls : Bls.Scheme) (relay : Relay) (registrations : List Registration)
    (s : RelayState) : RelayState × Exchange :=
  let s := countStart .registerValidators s
  match firstRejected bls relay.builderDomain registrations with
  | some (r, reason) => rejectRegistration r reason s
  | none => storeRegistrations registrations s

/-! ## Headers -/

structure HeaderRequest where
  slot : UInt64
  parentHash : String
  publicKey : String
  deriving DecidableEq, Repr

def noBidEvent (r : HeaderRequest) : LogEvent :=
  ⟨.debug, "No bid available",
    [("slot", toString r.slot), ("parent_hash", r.parentHash), ("pubkey", r.publicKey)]⟩

/-- Waits, and then has no header to give. -/
def handleHeader (relay : Relay) (request : HeaderRequest) (s : RelayState) :
    RelayState × Exchange :=
  let (s, exchange) := respond .getHeader (.ofStatus 204) (countStart .getHeader s)
  (s, { exchange with waited := relay.getHeaderWait.toNat, log := [noBidEvent request] })

end Relay

end BuilderRelay
