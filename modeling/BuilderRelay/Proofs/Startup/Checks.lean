import BuilderRelay.Startup.Stages

/-!
# The checks of startup

What has to hold before the relay is made, one condition after the other, and for each of them the
error it fails with, the call it makes and the events it logs. `follow` takes a list of checks in
order and stops at the first that fails; what it comes to is told by `find?` and `takeWhile` alone.
-/

namespace BuilderRelay.Startup

inductive Check where
  | network
  | endpointGiven
  | endpointAddress
  | beaconReached
  | beaconAnswered
  | statusReadable
  | beaconSynced
  | cacheConnected
  | keyEncoding
  | keyScalar
  | listenAddress
  deriving DecidableEq, Repr

namespace Check

def all : List Check := [network, endpointGiven, endpointAddress, beaconReached, beaconAnswered,
  statusReadable, beaconSynced, cacheConnected, keyEncoding, keyScalar, listenAddress]

def stage : Check → Stage
  | network => .networkIdentity
  | endpointGiven | endpointAddress => .beaconSync
  | beaconReached | beaconAnswered | statusReadable | beaconSynced => .beaconSync
  | cacheConnected => .datastore
  | keyEncoding | keyScalar => .keyMaterial
  | listenAddress => .serviceConstruction

def kind : Check → ErrorKind
  | network | endpointGiven | endpointAddress | keyEncoding | keyScalar => .configuration
  | beaconReached | beaconAnswered | statusReadable | beaconSynced => .dependency
  | cacheConnected => .dependency
  | listenAddress => .service

end Check

/-! ## What the checks look at -/

/-- The address that the beacon node is asked at; one slash stands before the route. -/
def statusUrl (c : Config) : String :=
  if c.beaconUri.toList.getLast? = some '/' then c.beaconUri ++ "eth/v1/node/syncing"
  else c.beaconUri ++ "/" ++ "eth/v1/node/syncing"

def response? (d : Dependencies) (c : Config) : Option HttpResponse :=
  (d.get (statusUrl c)).toOption

def status? (d : Dependencies) (c : Config) : Option SyncStatus :=
  (response? d c).bind fun r => (Json.decode SyncStatus.responseReader r.body).toOption

def keyBytes? (c : Config) : Option Bytes := (Hex.decodePrefixed (Text.trim c.secretKey)).toOption

def key? (c : Config) : Option Bls.SecretKey :=
  (keyBytes? c).bind fun bytes => (Signing.secretKeyOfBytes bytes).toOption

def faultOf {ε α : Type} : Except ε α → Option ε
  | .error fault => some fault
  | .ok _ => none

namespace Check

/-- The error of a check that fails. A check on a value that is not there does not fail itself. -/
def failure (d : Dependencies) (c : Config) : Check → Option StartupError
  | network => faultOf c.network.select
  | endpointGiven =>
      if Text.isBlank c.beaconUri then
        some (.invalidBeaconUri c.beaconUri (.plain "Beacon endpoint is not configured"))
      else none
  | endpointAddress => (faultOf (readUrl c.beaconUri)).map fun fault =>
      .invalidBeaconUri c.beaconUri ⟨s!"Invalid beacon endpoint '{c.beaconUri}'", [fault.message]⟩
  | beaconReached => (faultOf (d.get (statusUrl c))).map fun reason =>
      .beaconNotReady (reason.context s!"Failed to send request to {statusUrl c}")
  | beaconAnswered => (response? d c).bind fun r =>
      if r.status = 200 then none
      else
        let text := (Utf8.decode r.body).getD "Unknown error"
        some (.beaconNotReady
          (.plain s!"Beacon API request failed with status {r.status}: {text}"))
  | statusReadable => (response? d c).bind fun r =>
      (faultOf (Json.decode SyncStatus.responseReader r.body)).map fun fault =>
        .beaconNotReady ⟨s!"Failed to parse response from {statusUrl c}", [fault.message r.body]⟩
  | beaconSynced => (status? d c).bind fun s =>
      if s.isSyncing then
        let slot := s.headSlot
        let distance := s.syncDistance
        some (.beaconNotReady
          (.plain s!"Beacon node is syncing (head slot {slot}, sync distance {distance})"))
      else none
  | cacheConnected => (faultOf (d.connect c.redisUri)).map (.cacheUnavailable c.redisUri)
  | keyEncoding => (faultOf (Hex.decodePrefixed (Text.trim c.secretKey))).map fun fault =>
      .malformedSecretKey (.plain fault.message)
  | keyScalar => (keyBytes? c).bind fun bytes =>
      (faultOf (Signing.secretKeyOfBytes bytes)).map fun fault =>
        .invalidSecretKey (.plain fault.message)
  | listenAddress =>
      if Text.isBlank c.listenAddr then
        some (.serviceConstruction (.plain "listen address is empty"))
      else none

@[simp] def calls (c : Config) : Check → List ExternalCall
  | beaconReached => [.get (statusUrl c)]
  | cacheConnected => [.connect c.redisUri]
  | _ => []

/-- What is logged before a check. -/
@[simp] def announcements (c : Config) : Check → List LogEvent
  | endpointGiven => [⟨.info, "Using beacon endpoint", [("endpoint", c.beaconUri)]⟩]
  | beaconReached => [⟨.debug, "Making beacon API request", [("url", statusUrl c)]⟩]
  | _ => []

/-- What is logged after a check that holds. -/
@[simp] def milestones (bls : Bls.Scheme) (d : Dependencies) (c : Config) : Check → List LogEvent
  | network => c.network.select.toOption.toList.map fun n =>
      ⟨.info, "Using genesis fork version", [("network", n.text)]⟩
  | beaconSynced => (status? d c).toList.map fun s =>
      ⟨.info, "Beacon node is synced", [("head_slot", toString s.headSlot)]⟩
  | cacheConnected => [⟨.info, "Connected to Redis", [("uri", c.redisUri)]⟩]
  | keyScalar => (key? c).toList.map fun key =>
      ⟨.info, "Loaded relay signing key",
        [("pubkey", Hex.encodePrefixed (bls.publicKey key).toList)]⟩
  | listenAddress => c.network.select.toOption.toList.flatMap fun n =>
      (key? c).toList.map fun key =>
        ⟨.info, "Relay service configured", [
          ("network", n.text),
          ("domain", Hex.encodePrefixed (Signing.builderDomain n.forkVersion).toList),
          ("relay_pubkey", Hex.encodePrefixed (bls.publicKey key).toList)]⟩
  | _ => []

def passes (d : Dependencies) (c : Config) (k : Check) : Bool := (k.failure d c).isNone

/-- A network that is not selected is the operator's fault. -/
theorem stage_and_kind_of_select {s : NetworkSources} {e : StartupError} (h : s.select = .error e) :
    e.stage = .networkIdentity ∧ e.kind = .configuration := by
  unfold NetworkSources.select at h
  split at h
  · cases h
    exact ⟨rfl, rfl⟩
  · split at h
    · split at h
      · cases h
      · cases h
        exact ⟨rfl, rfl⟩
    · cases h
    · cases h
      exact ⟨rfl, rfl⟩

theorem stage_and_kind_of_failure {d : Dependencies} {c : Config} {k : Check} {e : StartupError}
    (h : k.failure d c = some e) : e.stage = k.stage ∧ e.kind = k.kind := by
  cases k with
  | network =>
      apply stage_and_kind_of_select (s := c.network)
      cases hs : c.network.select with
      | error fault => simpa [failure, faultOf, hs] using h
      | ok n => simp [failure, faultOf, hs] at h
  | endpointGiven | listenAddress =>
      simp only [failure, Option.ite_none_right_eq_some, Option.some.injEq] at h
      rw [← h.2]
      exact ⟨rfl, rfl⟩
  | endpointAddress | beaconReached | cacheConnected | keyEncoding =>
      simp only [failure, Option.map_eq_some_iff] at h
      obtain ⟨_, _, rfl⟩ := h
      exact ⟨rfl, rfl⟩
  | beaconAnswered | beaconSynced =>
      obtain ⟨_, _, h⟩ := Option.bind_eq_some_iff.mp h
      split at h
      all_goals cases h
      exact ⟨rfl, rfl⟩
  | statusReadable | keyScalar =>
      obtain ⟨_, _, h⟩ := Option.bind_eq_some_iff.mp h
      obtain ⟨_, _, rfl⟩ := Option.map_eq_some_iff.mp h
      exact ⟨rfl, rfl⟩

end Check

/-! ## Making checks in order -/

section

variable (bls : Bls.Scheme) (d : Dependencies) (c : Config)

def firstFailure (ks : List Check) : Option (Check × StartupError) :=
  ks.findSome? fun k => (k.failure d c).map (k, ·)

def passed (ks : List Check) : List Check := ks.takeWhile (Check.passes d c)

/-- The checks up to and including the first that fails. -/
def reached (ks : List Check) : List Check :=
  passed d c ks ++ (ks.find? (!Check.passes d c ·)).toList

/-- What is logged: everything about the checks that hold, and what comes before the one that
fails. -/
def eventsOf (ks : List Check) : List LogEvent :=
  (passed d c ks).flatMap (fun k => k.announcements c ++ k.milestones bls d c) ++
    (ks.find? (!Check.passes d c ·)).toList.flatMap (Check.announcements c)

/-- Makes the checks one after the other, up to the first that fails. -/
def follow : List Check → Attempt StartupError Unit
  | [] => .succeed ()
  | k :: ks =>
      match k.failure d c with
      | some e => ⟨k.calls c, k.announcements c, .error e⟩
      | none =>
          let later := follow ks
          ⟨k.calls c ++ later.calls, k.announcements c ++ k.milestones bls d c ++ later.log,
            later.result⟩

variable {bls d c}

theorem failure_of_firstFailure {ks : List Check} {k : Check} {e : StartupError}
    (h : firstFailure d c ks = some (k, e)) : k.failure d c = some e := by
  obtain ⟨k', _, h⟩ := List.exists_of_findSome?_eq_some h
  obtain ⟨e', he, h⟩ := Option.map_eq_some_iff.mp h
  cases h
  exact he

theorem mem_of_firstFailure {ks : List Check} {k : Check} {e : StartupError}
    (h : firstFailure d c ks = some (k, e)) : k ∈ ks := by
  obtain ⟨k', hmem, h⟩ := List.exists_of_findSome?_eq_some h
  obtain ⟨e', he, h⟩ := Option.map_eq_some_iff.mp h
  cases h
  exact hmem

theorem firstFailure_eq_none {ks : List Check} :
    firstFailure d c ks = none ↔ ks.all (Check.passes d c) := by
  simp [firstFailure, Check.passes]

/-- No check is made twice, so the first that fails marks where the checks end. -/
theorem reached_eq_takeWhile {ks : List Check} (h : ks.Nodup) :
    reached d c ks =
      match firstFailure d c ks with
      | some (k, _) => ks.takeWhile (· ≠ k) ++ [k]
      | none => ks := by
  induction ks with
  | nil => rfl
  | cons k ks ih =>
      obtain ⟨hk, hks⟩ := List.nodup_cons.mp h
      cases hf : k.failure d c with
      | some e => simp [reached, passed, firstFailure, Check.passes, hf]
      | none =>
          have hr : reached d c (k :: ks) = k :: reached d c ks := by
            simp [reached, passed, Check.passes, hf]
          have hff : firstFailure d c (k :: ks) = firstFailure d c ks := by
            simp [firstFailure, hf]
          rw [hr, ih hks, hff]
          -- A check that fails further back is another one, so `takeWhile` does not stop here.
          cases hl : firstFailure d c ks with
          | none => rfl
          | some failed =>
              have hne : k ≠ failed.1 := fun heq => hk (heq ▸ mem_of_firstFailure hl)
              simp [hne]

theorem follow_cons_of_failure {k : Check} {e : StartupError} (h : k.failure d c = some e)
    (ks : List Check) :
    follow bls d c (k :: ks) = ⟨k.calls c, k.announcements c, .error e⟩ := by
  simp only [follow, h]

theorem follow_cons_of_passes {k : Check} (h : k.failure d c = none) (ks : List Check) :
    follow bls d c (k :: ks) = ⟨k.calls c ++ (follow bls d c ks).calls,
      k.announcements c ++ k.milestones bls d c ++ (follow bls d c ks).log,
      (follow bls d c ks).result⟩ := by
  simp only [follow, h]

theorem follow_append (ks ls : List Check) :
    follow bls d c (ks ++ ls) = (follow bls d c ks).andThen fun _ => follow bls d c ls := by
  induction ks with
  | nil => simp [follow, Attempt.andThen, Attempt.succeed, Attempt.require]
  | cons k ks ih =>
      cases h : k.failure d c with
      | some e => simp only [List.cons_append, follow_cons_of_failure h, Attempt.andThen]
      | none =>
          rw [List.cons_append, follow_cons_of_passes h, follow_cons_of_passes h, ih]
          cases hr : (follow bls d c ks).result <;> simp [Attempt.andThen, hr]

theorem follow_result (ks : List Check) :
    (follow bls d c ks).result =
      match firstFailure d c ks with
      | some (_, e) => .error e
      | none => .ok () := by
  induction ks with
  | nil => rfl
  | cons k ks ih =>
      cases h : k.failure d c with
      | some e => simp only [follow_cons_of_failure h, firstFailure, List.findSome?, h, Option.map]
      | none =>
          rw [follow_cons_of_passes h, ih]
          simp only [firstFailure, List.findSome?, h, Option.map]

theorem follow_calls (ks : List Check) :
    (follow bls d c ks).calls = (reached d c ks).flatMap (Check.calls c) := by
  induction ks with
  | nil => rfl
  | cons k ks ih =>
      cases h : k.failure d c with
      | some e =>
          simp [follow_cons_of_failure h, reached, passed, Check.passes, h]
      | none =>
          simp [follow_cons_of_passes h, ih, reached, passed, Check.passes, h]

theorem follow_log (ks : List Check) :
    (follow bls d c ks).log = eventsOf bls d c ks := by
  induction ks with
  | nil => rfl
  | cons k ks ih =>
      cases h : k.failure d c with
      | some e =>
          simp [follow_cons_of_failure h, eventsOf, passed, Check.passes, h]
      | none =>
          simp [follow_cons_of_passes h, ih, eventsOf, passed, Check.passes, h]

end

end BuilderRelay.Startup
