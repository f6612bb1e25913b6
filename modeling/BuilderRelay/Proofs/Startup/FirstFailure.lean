import BuilderRelay.Proofs.Startup.Checks

/-!
# The first failure ends startup

`Follows ks x post` says that the attempt `x` makes the checks `ks` in order: it has their calls and
their events, it fails with the error of the first that fails, and if all of them hold it comes to a
value of which `post` is true. Attempts in sequence follow the checks of one after the checks of the
other, so the stages of startup are looked at one by one; together they make all the checks.
-/

namespace BuilderRelay.Startup

variable {α β : Type} {bls : Bls.Scheme} {d : Dependencies} {c : Config}

structure Follows (bls : Bls.Scheme) (d : Dependencies) (c : Config) (ks : List Check)
    (x : Attempt StartupError α) (post : α → Prop) : Prop where
  calls : x.calls = (follow bls d c ks).calls
  log : x.log = (follow bls d c ks).log
  result : match (follow bls d c ks).result with
    | .error e => x.result = .error e
    | .ok () => ∃ a, x.result = .ok a ∧ post a

theorem Follows.bind {ks ls : List Check} {x : Attempt StartupError α}
    {f : α → Attempt StartupError β} {post : α → Prop} {post' : β → Prop}
    (hx : Follows bls d c ks x post) (hf : ∀ a, post a → Follows bls d c ls (f a) post') :
    Follows bls d c (ks ++ ls) (x >>= f) post' := by
  obtain ⟨hcalls, hlog, hresult⟩ := hx
  change Follows bls d c (ks ++ ls) (x.andThen f) post'
  cases hr : (follow bls d c ks).result with
  | error e =>
      simp only [hr] at hresult
      constructor
      · simp [follow_append, Attempt.andThen, hr, hresult, hcalls]
      · simp [follow_append, Attempt.andThen, hr, hresult, hlog]
      · simp [follow_append, Attempt.andThen, hr, hresult]
  | ok _ =>
      simp only [hr] at hresult
      obtain ⟨a, ha, hpost⟩ := hresult
      obtain ⟨fcalls, flog, fresult⟩ := hf a hpost
      constructor
      · simp [follow_append, Attempt.andThen, hr, ha, hcalls, fcalls]
      · simp [follow_append, Attempt.andThen, hr, ha, hlog, flog]
      · simpa [follow_append, Attempt.andThen, hr, ha] using fresult

/-- An attempt that ends with a check that fails. -/
theorem Follows.fails {k : Check} {e : StartupError} (h : k.failure d c = some e)
    {ks : List Check} {x : Attempt StartupError α} {post : α → Prop}
    (hx : x = ⟨k.calls c, k.announcements c, .error e⟩) :
    Follows bls d c (k :: ks) x post := by
  subst hx
  constructor <;> simp [follow_cons_of_failure h]

/-- An attempt that goes on after a check that holds. -/
theorem Follows.holds {k : Check} (h : k.failure d c = none) {ks : List Check}
    {x y : Attempt StartupError α} {post : α → Prop} (hy : Follows bls d c ks y post)
    (hx : x = ⟨k.calls c ++ y.calls, k.announcements c ++ k.milestones bls d c ++ y.log,
      y.result⟩) :
    Follows bls d c (k :: ks) x post := by
  obtain ⟨hcalls, hlog, hresult⟩ := hy
  subst hx
  constructor
  · rw [follow_cons_of_passes h, hcalls]
  · rw [follow_cons_of_passes h, hlog]
  · simpa only [follow_cons_of_passes h] using hresult

/-- An attempt that needs no more checks. -/
theorem Follows.done {a : α} {post : α → Prop} (h : post a) :
    Follows bls d c [] ⟨[], [], .ok a⟩ post :=
  ⟨rfl, rfl, a, rfl, h⟩

theorem Follows.imp {ks : List Check} {x : Attempt StartupError α} {post post' : α → Prop}
    (hx : Follows bls d c ks x post) (h : ∀ a, post a → post' a) :
    Follows bls d c ks x post' := by
  obtain ⟨hcalls, hlog, hresult⟩ := hx
  refine ⟨hcalls, hlog, ?_⟩
  cases hr : (follow bls d c ks).result with
  | error e => simpa only [hr] using hresult
  | ok _ =>
      simp only [hr] at hresult
      obtain ⟨a, ha, hpost⟩ := hresult
      exact ⟨a, ha, h a hpost⟩

@[simp] theorem mapError_error {ε ε' : Type} (f : ε → ε') (e : ε) :
    (Except.error e : Except ε α).mapError f = .error (f e) := rfl

@[simp] theorem mapError_ok {ε ε' : Type} (f : ε → ε') (a : α) :
    (Except.ok a : Except ε α).mapError f = .ok a := rfl

/-! ## The stages -/

theorem resolve_follows :
    Follows bls d c [.network] (resolve c)
      fun r => r.config = c ∧ c.network.select = .ok r.network := by
  cases h : c.network.select with
  | error e =>
      have hf : Check.network.failure d c = some e := by simp [Check.failure, faultOf, h]
      apply Follows.fails hf
      simp [resolve, h]
  | ok n =>
      have hf : Check.network.failure d c = none := by simp [Check.failure, faultOf, h]
      apply Follows.holds hf (.done (a := Resolved.mk c n) ⟨rfl, rfl⟩)
      simp [resolve, h, Except.toOption]

/-- The beacon client of a configuration. -/
def clientOf (c : Config) : BeaconClient := ⟨⟨c.beaconUri, beaconTimeout⟩⟩

/-- What is said before the beacon client is made, and whether it is made. -/
def openClient (c : Config) : Attempt StartupError BeaconClient := do
  .info "Using beacon endpoint" [("endpoint", c.beaconUri)]
  Attempt.require <| (BeaconClient.create ⟨c.beaconUri, beaconTimeout⟩).mapError fun fault =>
    .invalidBeaconUri c.beaconUri fault.report

theorem openClient_follows :
    Follows bls d c [.endpointGiven, .endpointAddress] (openClient c) (· = clientOf c) := by
  cases hb : Text.isBlank c.beaconUri with
  | true =>
      have hf : Check.endpointGiven.failure d c =
          some (.invalidBeaconUri c.beaconUri ClientFault.blankEndpoint.report) := by
        rw [Check.failure, if_pos hb]
        rfl
      apply Follows.fails hf
      simp [openClient, BeaconClient.create, hb]
  | false =>
      have hg : Check.endpointGiven.failure d c = none := by simp [Check.failure, hb]
      cases hu : readUrl c.beaconUri with
      | error fault =>
          have hf : Check.endpointAddress.failure d c = some (.invalidBeaconUri c.beaconUri
              (ClientFault.invalidEndpoint c.beaconUri fault).report) := by
            simp only [Check.failure, faultOf, hu, Option.map_some]
            rfl
          apply Follows.holds hg (Follows.fails hf rfl)
          simp [openClient, BeaconClient.create, hb, hu]
      | ok u =>
          have ha : Check.endpointAddress.failure d c = none := by simp [Check.failure, faultOf, hu]
          refine Follows.holds hg (Follows.holds ha (.done rfl) rfl) ?_
          have ht : beaconTimeout ≠ 0 := by decide
          simp [openClient, clientOf, BeaconClient.create, hb, hu, ht]

/-- The question to the beacon node, and what is said about a good answer. -/
def askBeacon (get : String → HttpOutcome) (beacon : BeaconClient) :
    Attempt StartupError Unit := do
  let status ← (beacon.syncStatus get).mapError fun fault =>
    StartupError.beaconNotReady fault.report
  .info "Beacon node is synced" [("head_slot", toString status.headSlot)]

theorem askBeacon_eq : askBeacon d.get (clientOf c) =
    Attempt.andThen
      ⟨Check.beaconReached.calls c, Check.beaconReached.announcements c,
        (BeaconClient.readStatus (statusUrl c) (d.get (statusUrl c))).mapError
          fun fault => .beaconNotReady fault.report⟩
      fun status => .info "Beacon node is synced" [("head_slot", toString status.headSlot)] := rfl

theorem askBeacon_of_error {fault : SyncFault}
    (h : BeaconClient.readStatus (statusUrl c) (d.get (statusUrl c)) = .error fault) :
    askBeacon d.get (clientOf c) =
      ⟨Check.beaconReached.calls c, Check.beaconReached.announcements c,
        .error (.beaconNotReady fault.report)⟩ := by
  rw [askBeacon_eq, h]
  rfl

theorem askBeacon_of_ok {s : SyncStatus}
    (h : BeaconClient.readStatus (statusUrl c) (d.get (statusUrl c)) = .ok s) :
    askBeacon d.get (clientOf c) =
      ⟨Check.beaconReached.calls c, Check.beaconReached.announcements c ++
        [⟨.info, "Beacon node is synced", [("head_slot", toString s.headSlot)]⟩], .ok ()⟩ := by
  rw [askBeacon_eq, h]
  rfl

/-- The node is asked once, and the four checks of the answer are all about that one. -/
theorem askBeacon_follows :
    Follows bls d c [.beaconReached, .beaconAnswered, .statusReadable, .beaconSynced]
      (askBeacon d.get (clientOf c)) fun _ => True := by
  -- One case for each check that can be the first to fail, and one for a node that is synced.
  cases hr : d.get (statusUrl c) with
  | error reason =>
      have hf : Check.beaconReached.failure d c =
          some (.beaconNotReady (SyncFault.unreachable (statusUrl c) reason).report) := by
        simp only [Check.failure, faultOf, hr, Option.map_some]
        rfl
      exact Follows.fails hf (askBeacon_of_error (by rw [hr]; rfl))
  | ok r =>
      have h₁ : Check.beaconReached.failure d c = none := by simp [Check.failure, faultOf, hr]
      have hresponse : response? d c = some r := by simp [response?, hr, Except.toOption]
      by_cases hs : r.status = 200
      · have h₂ : Check.beaconAnswered.failure d c = none := by
          simp [Check.failure, hresponse, hs]
        cases hj : Json.decode SyncStatus.responseReader r.body with
        | error fault =>
            have hf : Check.statusReadable.failure d c = some (.beaconNotReady
                (SyncFault.unreadable (statusUrl c) r.body fault).report) := by
              simp only [Check.failure, hresponse, faultOf, hj, Option.bind_some, Option.map_some]
              rfl
            refine Follows.holds h₁ (Follows.holds h₂ (Follows.fails hf rfl) rfl) ?_
            exact askBeacon_of_error (by simp only [BeaconClient.readStatus, hr, hs, hj]; rfl)
        | ok s =>
            have h₃ : Check.statusReadable.failure d c = none := by
              simp [Check.failure, hresponse, faultOf, hj]
            have hstatus : status? d c = some s := by
              simp [status?, hresponse, hj, Except.toOption]
            cases hy : s.isSyncing with
            | true =>
                have hf : Check.beaconSynced.failure d c =
                    some (.beaconNotReady (SyncFault.syncing s).report) := by
                  simp only [Check.failure, hstatus, hy, Option.bind_some]
                  rfl
                refine Follows.holds h₁ (Follows.holds h₂ (Follows.holds h₃
                  (Follows.fails hf rfl) rfl) rfl) ?_
                exact askBeacon_of_error
                  (by simp only [BeaconClient.readStatus, hr, hs, hj, hy]; rfl)
            | false =>
                have h₄ : Check.beaconSynced.failure d c = none := by
                  simp [Check.failure, hstatus, hy]
                refine Follows.holds h₁ (Follows.holds h₂ (Follows.holds h₃
                  (Follows.holds h₄ (.done (a := ()) trivial) rfl) rfl) rfl) ?_
                rw [askBeacon_of_ok (s := s)
                  (by simp only [BeaconClient.readStatus, hr, hs, hj, hy]; rfl)]
                simp [hstatus]
      · have hf : Check.beaconAnswered.failure d c =
            some (.beaconNotReady (SyncFault.refused r.status r.body).report) := by
          simp only [Check.failure, hresponse, Option.bind_some, if_neg hs]
          rfl
        refine Follows.holds h₁ (Follows.fails hf rfl) ?_
        exact askBeacon_of_error (by rw [hr]; exact if_pos hs)

theorem verifyBeacon_eq (r : Resolved) : verifyBeacon d.get r = (do
    let beacon ← openClient r.config
    askBeacon d.get beacon
    return { resolved := r, beacon }) := by
  simp only [verifyBeacon, openClient, askBeacon, Attempt.bind_eq, Attempt.andThen_assoc]

theorem verifyBeacon_follows {r : Resolved} (h : r.config = c) :
    Follows bls d c [.endpointGiven, .endpointAddress, .beaconReached, .beaconAnswered,
        .statusReadable, .beaconSynced]
      (verifyBeacon d.get r)
      fun v => v.resolved = r ∧ v.beacon = clientOf c := by
  subst h
  rw [verifyBeacon_eq]
  refine Follows.bind openClient_follows ?_
  rintro beacon rfl
  refine Follows.bind askBeacon_follows (f := fun _ => ⟨[], [], .ok _⟩) fun _ _ => ?_
  exact .done ⟨rfl, rfl⟩

theorem connectDatastore_follows {v : BeaconVerified} (h : v.resolved.config = c) :
    Follows bls d c [.cacheConnected] (connectDatastore d.connect v)
      fun s => s.verified = v ∧ d.connect c.redisUri = .ok s.cache := by
  subst h
  cases hc : d.connect v.resolved.config.redisUri with
  | error reason =>
      have hf : Check.cacheConnected.failure d v.resolved.config =
          some (.cacheUnavailable v.resolved.config.redisUri reason) := by
        simp [Check.failure, faultOf, hc]
      apply Follows.fails hf
      simp [connectDatastore, hc]
  | ok cache =>
      have hf : Check.cacheConnected.failure d v.resolved.config = none := by
        simp [Check.failure, faultOf, hc]
      apply Follows.holds hf (.done (a := DatastoreConnected.mk v cache) ⟨rfl, rfl⟩)
      simp [connectDatastore, hc]

theorem loadKey_follows {s : DatastoreConnected} (h : s.verified.resolved.config = c) :
    Follows bls d c [.keyEncoding, .keyScalar] (loadKey bls s)
      fun k => k.connected = s ∧ key? c = some k.key := by
  subst h
  cases hd : Hex.decodePrefixed (Text.trim s.verified.resolved.config.secretKey) with
  | error fault =>
      have hf : Check.keyEncoding.failure d s.verified.resolved.config =
          some (.malformedSecretKey (.plain fault.message)) := by
        simp [Check.failure, faultOf, hd]
      apply Follows.fails hf
      simp [loadKey, readKey, Signing.decodeKeyText, hd]
  | ok bytes =>
      have hg : Check.keyEncoding.failure d s.verified.resolved.config = none := by
        simp [Check.failure, faultOf, hd]
      have hbytes : keyBytes? s.verified.resolved.config = some bytes := by
        simp [keyBytes?, hd, Except.toOption]
      cases hk : Signing.secretKeyOfBytes bytes with
      | error fault =>
          have hf : Check.keyScalar.failure d s.verified.resolved.config =
              some (.invalidSecretKey (.plain fault.message)) := by
            simp [Check.failure, hbytes, faultOf, hk]
          refine Follows.holds hg (Follows.fails hf rfl) ?_
          simp [loadKey, readKey, Signing.decodeKeyText, hd, hk]
      | ok key =>
          have hf : Check.keyScalar.failure d s.verified.resolved.config = none := by
            simp [Check.failure, hbytes, faultOf, hk]
          have hkey : key? s.verified.resolved.config = some key := by
            simp [key?, hbytes, hk, Except.toOption]
          refine Follows.holds hg (Follows.holds hf
            (.done (a := KeyLoaded.mk s key) ⟨rfl, hkey⟩) rfl) ?_
          simp [loadKey, readKey, Signing.decodeKeyText, hd, hk, hkey]

theorem create_follows {o : RelayOptions} (hl : o.listenAddr = c.listenAddr)
    (hn : c.network.select = .ok o.network) (hk : key? c = some o.key) :
    Follows bls d c [.listenAddress] ((Relay.create bls o).mapError .serviceConstruction)
      (· = ⟨o.listenAddr, o.beacon, Signing.builderDomain o.network.forkVersion, o.pprof,
        o.getHeaderWait, o.key⟩) := by
  cases hb : Text.isBlank o.listenAddr with
  | true =>
      have hf : Check.listenAddress.failure d c =
          some (.serviceConstruction (.plain "listen address is empty")) := by
        rw [Check.failure, ← hl, if_pos hb]
      apply Follows.fails hf
      simp [Relay.create, hb]
  | false =>
      have hf : Check.listenAddress.failure d c = none := by simp [Check.failure, ← hl, hb]
      refine Follows.holds hf (.done rfl) ?_
      simp [Relay.create, hb, hn, hk, Except.toOption]

/-! ## The whole of startup -/

/-- A relay made from a configuration, with the cache that startup connected to. -/
structure Configured (d : Dependencies) (c : Config) (p : Prepared) : Prop where
  listenAddr : p.relay.listenAddr = c.listenAddr
  endpoint : p.relay.beacon = ⟨⟨c.beaconUri, 30⟩⟩
  getHeaderWait : p.relay.getHeaderWait = c.getHeaderWait
  pprof : p.relay.pprof = c.pprof
  builderDomain : ∃ n, c.network.select = .ok n ∧
    p.relay.builderDomain = Signing.builderDomain n.forkVersion
  key : ∃ bytes, Hex.decodePrefixed (Text.trim c.secretKey) = .ok bytes ∧
    Signing.secretKeyOfBytes bytes = .ok p.relay.key
  cache : d.connect c.redisUri = .ok p.cache

theorem ok_of_toOption {ε : Type} {x : Except ε α} {a : α} (h : x.toOption = some a) :
    x = .ok a := by
  cases x with
  | error _ => cases h
  | ok _ => cases h; rfl

theorem key?_eq_some {key : Bls.SecretKey} (h : key? c = some key) :
    ∃ bytes, Hex.decodePrefixed (Text.trim c.secretKey) = .ok bytes ∧
      Signing.secretKeyOfBytes bytes = .ok key := by
  obtain ⟨bytes, hbytes, hkey⟩ := Option.bind_eq_some_iff.mp h
  exact ⟨bytes, ok_of_toOption hbytes, ok_of_toOption hkey⟩

theorem stages_follows :
    Follows bls d c [.network, .endpointGiven, .endpointAddress, .beaconReached, .beaconAnswered,
        .statusReadable, .beaconSynced, .cacheConnected, .keyEncoding, .keyScalar]
      (stages bls d c)
      fun k => k.connected.verified.resolved.config = c ∧
        c.network.select = .ok k.connected.verified.resolved.network ∧
        k.connected.verified.beacon = clientOf c ∧
        d.connect c.redisUri = .ok k.connected.cache ∧ key? c = some k.key := by
  refine Follows.bind resolve_follows fun r hr => ?_
  refine Follows.bind (verifyBeacon_follows hr.1) fun v hv => ?_
  obtain ⟨rfl, hbeacon⟩ := hv
  refine Follows.bind (connectDatastore_follows hr.1) fun s hs => ?_
  obtain ⟨rfl, hcache⟩ := hs
  refine (loadKey_follows hr.1).imp fun k hk => ?_
  obtain ⟨rfl, hkey⟩ := hk
  exact ⟨hr.1, hr.2, hbeacon, hcache, hkey⟩

theorem prepare_follows : Follows bls d c Check.all (prepare bls d c) (Configured d c) := by
  refine Follows.bind stages_follows fun k hk => ?_
  obtain ⟨hconfig, hnetwork, hbeacon, hcache, hkey⟩ := hk
  refine Follows.bind
    (create_follows (o := k.options) (congrArg Config.listenAddr hconfig) hnetwork hkey)
    (f := fun relay => ⟨[], [], .ok (Prepared.mk relay _)⟩) ?_
  rintro relay rfl
  exact .done {
    listenAddr := congrArg Config.listenAddr hconfig
    endpoint := hbeacon
    getHeaderWait := congrArg Config.getHeaderWait hconfig
    pprof := congrArg Config.pprof hconfig
    builderDomain := ⟨_, hnetwork, rfl⟩
    key := key?_eq_some hkey
    cache := hcache }

/-- The calls of a startup that ends with a check, or of one that makes all of them. -/
def callsUntil (c : Config) : Option Check → List ExternalCall
  | some .network | some .endpointGiven | some .endpointAddress => []
  | some .beaconReached | some .beaconAnswered | some .statusReadable | some .beaconSynced =>
      [.get (statusUrl c)]
  | _ => [.get (statusUrl c), .connect c.redisUri]

theorem calls_reached (d : Dependencies) (c : Config) :
    (reached d c Check.all).flatMap (Check.calls c) =
      callsUntil c ((firstFailure d c Check.all).map (·.1)) := by
  rw [reached_eq_takeWhile (by decide)]
  cases firstFailure d c Check.all with
  | none => rfl
  | some failed =>
      obtain ⟨k, e⟩ := failed
      cases k <;> rfl

/-- Startup comes to the error of the first check that fails, and to a relay that is configured as
asked if none does; it calls and logs what belongs to the checks up to there, in order. -/
theorem prepare_first_failure (bls : Bls.Scheme) (d : Dependencies) (c : Config) :
    (match firstFailure d c Check.all with
      | some (k, e) => (prepare bls d c).result = .error e ∧ e.stage = k.stage
      | none => ∃ p, (prepare bls d c).result = .ok p ∧ Configured d c p) ∧
    ((∃ p, (prepare bls d c).result = .ok p) ↔ Check.all.all (Check.passes d c)) ∧
    (prepare bls d c).calls = callsUntil c ((firstFailure d c Check.all).map (·.1)) ∧
    (prepare bls d c).log = eventsOf bls d c Check.all := by
  obtain ⟨hcalls, hlog, hresult⟩ := @prepare_follows bls d c
  rw [follow_result] at hresult
  refine ⟨?_, ?_, ?_, ?_⟩
  · cases h : firstFailure d c Check.all with
    | some failed =>
        obtain ⟨k, e⟩ := failed
        simp only [h] at hresult
        exact ⟨hresult, (Check.stage_and_kind_of_failure (failure_of_firstFailure h)).1⟩
    | none => simpa only [h] using hresult
  · cases h : firstFailure d c Check.all with
    | some failed =>
        simp only [h] at hresult
        rw [← firstFailure_eq_none, h, hresult]
        simp
    | none =>
        simp only [h] at hresult
        obtain ⟨p, hp, -⟩ := hresult
        rw [← firstFailure_eq_none, h, hp]
        simp
  · rw [hcalls, follow_calls, calls_reached]
  · rw [hlog, follow_log]

end BuilderRelay.Startup
