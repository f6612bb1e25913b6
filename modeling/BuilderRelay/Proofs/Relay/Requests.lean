import BuilderRelay.Proofs.Storage.Cache
import BuilderRelay.Relay.Router

/-!
# What a request can do

A request is refused, asks for the status, asks for a header, or registers validators. Only the last
calls the cache, and only if all of its registrations verify. In a run, requests alternate with
failures that are scripted for the cache.
-/

namespace BuilderRelay.Relay

variable {bls : Bls.Scheme} {relay : Relay} {r : Http.Request} {s : RelayState}

/-- A relay verifies under the builder domain of its network. -/
theorem builderDomain_of_create {o : RelayOptions} (h : (create bls o).result = .ok relay) :
    relay.builderDomain = Signing.builderDomain o.network.forkVersion := by
  unfold create at h
  split at h
  · cases h
  · cases h
    rfl

/-- A request that registers validators. -/
structure Registers (r : Http.Request) (registrations : List Registration) : Prop where
  method : r.method = "POST"
  path : Http.targetPath r.target.toList = Endpoint.registerValidators.pattern.toList
  body : readRegistrations r = .ok registrations

theorem path_of_ofPath {pprof : Bool} {path : List Char}
    (h : Route.ofPath pprof path = some .registerValidators) :
    path = Endpoint.registerValidators.pattern.toList := by
  unfold Route.ofPath at h
  split at h
  · cases h
  · split at h
    · assumption
    · split at h
      · cases h
      · obtain ⟨_, _, h⟩ := Option.map_eq_some_iff.mp h
        cases h

theorem method_of_takes (h : Route.registerValidators.takes r.method) : r.method = "POST" := by
  have hget : Route.registerValidators.method ≠ "GET" := by decide
  rw [Route.takes, decide_eq_false hget, Bool.false_and, Bool.or_false] at h
  exact of_decide_eq_true h

theorem dispatch_cases (bls : Bls.Scheme) (relay : Relay) (r : Http.Request) (s : RelayState) :
    (∃ response, dispatch bls relay r s = refuse response s) ∨
    dispatch bls relay r s = handleStatus s ∨
    (∃ request, dispatch bls relay r s = handleHeader relay request s) ∨
    ∃ registrations, Registers r registrations ∧
      dispatch bls relay r s = handleRegistrations bls relay registrations s := by
  cases hroute : Route.ofPath relay.pprof (Http.targetPath r.target.toList) with
  | none =>
      simp only [dispatch, hroute]
      exact .inl ⟨_, rfl⟩
  | some route =>
      by_cases htakes : route.takes r.method
      · simp only [dispatch, hroute, if_pos htakes]
        cases route with
        | status => exact .inr (.inl rfl)
        | metrics => exact .inl ⟨_, rfl⟩
        | registerValidators =>
            cases hbody : readRegistrations r with
            | error fault =>
                simp only [serve, hbody]
                exact .inl ⟨_, rfl⟩
            | ok registrations =>
                simp only [serve, hbody]
                have hmethod := method_of_takes htakes
                have hregisters : Registers r registrations := ⟨hmethod, path_of_ofPath hroute, hbody⟩
                exact .inr (.inr (.inr ⟨registrations, hregisters, rfl⟩))
        | getHeader path =>
            cases hpath : readHeaderPath path with
            | error fault =>
                simp only [serve, hpath]
                exact .inl ⟨_, rfl⟩
            | ok request =>
                simp only [serve, hpath]
                exact .inr (.inr (.inl ⟨request, rfl⟩))
      · simp only [dispatch, hroute, if_neg htakes]
        exact .inl ⟨_, rfl⟩

theorem dispatch_of_registers {registrations : List Registration}
    (h : Registers r registrations) :
    dispatch bls relay r s = handleRegistrations bls relay registrations s := by
  have hroute : Route.ofPath relay.pprof (Http.targetPath r.target.toList) =
      some .registerValidators := by
    have hne : Endpoint.registerValidators.pattern.toList ≠ Endpoint.status.pattern.toList := by
      decide
    rw [Route.ofPath, h.path, if_neg hne, if_pos rfl]
  have htakes : Route.registerValidators.takes r.method := by
    rw [h.method]
    decide
  simp only [dispatch, hroute, if_pos htakes, serve, h.body]

/-! ## What is answered -/

theorem answer_state : (answer bls relay r s).1 = (dispatch bls relay r s).1 := by
  unfold answer
  obtain ⟨s', exchange⟩ := dispatch bls relay r s
  by_cases h : r.method = "HEAD" <;> simp only [h, if_true, if_false]

theorem answer_calls : (answer bls relay r s).2.calls = (dispatch bls relay r s).2.calls := by
  unfold answer
  obtain ⟨s', exchange⟩ := dispatch bls relay r s
  by_cases h : r.method = "HEAD" <;> simp only [h, if_true, if_false]

theorem answer_of_registers {registrations : List Registration} (h : Registers r registrations) :
    answer bls relay r s = handleRegistrations bls relay registrations s := by
  have hhead : ¬ r.method = "HEAD" := by
    rw [h.method]
    decide
  simp only [answer, if_neg hhead, dispatch_of_registers h]

theorem firstRejected_eq_none {domain : Root} {registrations : List Registration} :
    firstRejected bls domain registrations = none ↔
      ∀ r ∈ registrations, Signing.verifyRegistration bls domain r = .ok () := by
  induction registrations with
  | nil => simp [firstRejected]
  | cons r rest ih =>
      cases h : Signing.verifyRegistration bls domain r with
      | error reason => simp [firstRejected, h]
      | ok _ => simp [firstRejected, h, ih]

theorem answer_of_verified {registrations : List Registration} (h : Registers r registrations)
    (hverified : ∀ r ∈ registrations,
      Signing.verifyRegistration bls relay.builderDomain r = .ok ()) :
    answer bls relay r s =
      storeRegistrations registrations (countStart .registerValidators s) := by
  simp only [answer_of_registers h, handleRegistrations, firstRejected_eq_none.mpr hverified]

/-- A request leaves the cache alone, or stores registrations that all verify. -/
theorem answer_cache_cases (bls : Bls.Scheme) (relay : Relay) (r : Http.Request) (s : RelayState) :
    ((answer bls relay r s).1.cache = s.cache ∧ (answer bls relay r s).2.calls = []) ∨
    ∃ registrations, Registers r registrations ∧
      (∀ r ∈ registrations, Signing.verifyRegistration bls relay.builderDomain r = .ok ()) ∧
      let storing := storeAll (countStart .registerValidators s) registrations
      (answer bls relay r s).1.cache = storing.state.cache ∧
        (answer bls relay r s).2.calls = storing.calls := by
  simp only [answer_state, answer_calls]
  obtain ⟨response, h⟩ | h | ⟨request, h⟩ | ⟨registrations, hregisters, h⟩ :=
    dispatch_cases bls relay r s
  · rw [h]
    exact .inl ⟨rfl, rfl⟩
  · rw [h]
    exact .inl ⟨rfl, rfl⟩
  · rw [h]
    exact .inl ⟨rfl, rfl⟩
  · rw [h]
    cases hrejected : firstRejected bls relay.builderDomain registrations with
    | some rejected =>
        simp only [handleRegistrations, hrejected]
        exact .inl ⟨rfl, rfl⟩
    | none =>
        simp only [handleRegistrations, hrejected]
        exact .inr ⟨registrations, hregisters, firstRejected_eq_none.mp hrejected, rfl, rfl⟩

end BuilderRelay.Relay

/-! ## Runs -/

namespace BuilderRelay

/-- What happens to a relay. -/
inductive RelayEvent where
  | request (r : Http.Request)
  | fail (m : CacheMethod) (script : FailureScript)
  | heal (m : CacheMethod)

namespace Relay

variable (bls : Bls.Scheme) (relay : Relay)

def step : RelayEvent → RelayState → RelayState × List Exchange
  | .request r, s => ((answer bls relay r s).1, [(answer bls relay r s).2])
  | .fail m script, s => ({ s with cache := s.cache.fail m script }, [])
  | .heal m, s => ({ s with cache := s.cache.heal m }, [])

def run : List RelayEvent → RelayState → RelayState × List Exchange
  | [], s => (s, [])
  | event :: events, s =>
      let next := step bls relay event s
      let later := run events next.1
      (later.1, next.2 ++ later.2)

/-- The calls of a run that the scripts let through. -/
def admittedCalls : List RelayEvent → RelayState → List CacheCall
  | [], _ => []
  | event :: events, s =>
      let next := step bls relay event s
      next.2.flatMap (fun exchange => s.cache.script.admitted exchange.calls) ++
        admittedCalls events next.1

end Relay

/-- A relay for Sepolia, with the least of all keys. -/
def sepoliaOptions : RelayOptions where
  listenAddr := "127.0.0.1:18550"
  beacon := ⟨⟨"http://localhost:5052", 30⟩⟩
  network := .sepolia
  pprof := false
  getHeaderWait := 950
  key := ⟨1, by decide, by decide⟩

end BuilderRelay
