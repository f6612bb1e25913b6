import BuilderRelay.Proofs.Relay.Requests
import BuilderRelay.Proofs.Storage.Datastore

/-!
# Which requests touch the cache

A request is accepted if it posts JSON of registrations that all verify to where registrations are
received. An accepted request stores its registrations in order, each by one call, until a call
fails. Any other request makes no call and leaves the cache as it was.
-/

namespace BuilderRelay.Relay

open Datastore (setCall registrationKey publicKeyField)

variable {bls : Bls.Scheme} {relay : Relay} {r : Http.Request} {s : RelayState}
  {registrations : List Registration}

/-! ## Storing -/

/-- Storing calls the cache for a first part of the registrations. -/
theorem calls_storeAll_prefix (s : RelayState) (registrations : List Registration) :
    (storeAll s registrations).calls <+: registrations.map setCall := by
  induction registrations generalizing s with
  | nil => exact List.nil_prefix
  | cons g rest ih =>
      cases hp : s.cache.script.permit .hset with
      | error reason =>
          simp only [storeAll, Datastore.set_of_error hp, List.map_cons]
          exact List.prefix_append [setCall g] _
      | ok script =>
          simp only [storeAll, Datastore.set_of_ok hp, List.map_cons, List.singleton_append]
          exact List.cons_prefix_cons.mpr ⟨rfl, ih _⟩

/-- If nothing failed, that part is all of them. -/
theorem calls_storeAll_of_stored (s : RelayState) {registrations : List Registration}
    (h : (storeAll s registrations).failure = none) :
    (storeAll s registrations).calls = registrations.map setCall := by
  induction registrations generalizing s with
  | nil => rfl
  | cons g rest ih =>
      cases hp : s.cache.script.permit .hset with
      | error reason => simp only [storeAll, Datastore.set_of_error hp, reduceCtorEq] at h
      | ok script =>
          simp only [storeAll, Datastore.set_of_ok hp] at h
          simp only [storeAll, Datastore.set_of_ok hp, List.map_cons, List.singleton_append]
          rw [ih _ h]

/-! ## Accepted requests -/

/-- A post of registrations that all verify. -/
structure Accepted (bls : Bls.Scheme) (relay : Relay) (r : Http.Request)
    (registrations : List Registration) : Prop where
  method : r.method = "POST"
  path : Http.targetPath r.target.toList = "/eth/v1/builder/validators".toList
  contentType : (r.header "content-type").any Http.isJsonContent
  limit : r.body.length ≤ 2097152
  body : Json.decode Registration.listReader r.body = .ok registrations
  verified : ∀ g ∈ registrations, Signing.verifyRegistration bls relay.builderDomain g = .ok ()

theorem readRegistrations_eq_ok :
    readRegistrations r = .ok registrations ↔
      (r.header "content-type").any Http.isJsonContent ∧ r.body.length ≤ bodyLimit ∧
        Json.decode Registration.listReader r.body = .ok registrations := by
  cases htype : (r.header "content-type").any Http.isJsonContent with
  | false => simp [readRegistrations, htype]
  | true =>
      by_cases hlimit : bodyLimit < r.body.length
      · have hnot : ¬ r.body.length ≤ bodyLimit := Nat.not_le.mpr hlimit
        simp [readRegistrations, htype, hlimit, hnot]
      · have hle : r.body.length ≤ bodyLimit := Nat.le_of_not_lt hlimit
        cases hbody : Json.decode Registration.listReader r.body with
        | error fault =>
            have hread : readRegistrations r = .error (.unreadable r.body fault) := by
              simp only [readRegistrations, htype, hbody, Bool.not_true, Bool.false_eq_true,
                if_false, if_neg hlimit]
              rfl
            simp [hread]
        | ok rs =>
            have hread : readRegistrations r = .ok rs := by
              simp only [readRegistrations, htype, hbody, Bool.not_true, Bool.false_eq_true,
                if_false, if_neg hlimit]
              rfl
            simp [hread, hle]

theorem accepted_iff :
    Accepted bls relay r registrations ↔ Registers r registrations ∧
      ∀ g ∈ registrations, Signing.verifyRegistration bls relay.builderDomain g = .ok () := by
  constructor
  · intro h
    have hbody := readRegistrations_eq_ok.mpr ⟨h.contentType, h.limit, h.body⟩
    exact ⟨⟨h.method, h.path, hbody⟩, h.verified⟩
  · rintro ⟨hregisters, hverified⟩
    obtain ⟨htype, hlimit, hbody⟩ := readRegistrations_eq_ok.mp hregisters.body
    exact ⟨hregisters.method, hregisters.path, htype, hlimit, hbody, hverified⟩

theorem answer_of_accepted (h : Accepted bls relay r registrations) :
    answer bls relay r s =
      storeRegistrations registrations (countStart .registerValidators s) := by
  obtain ⟨hregisters, hverified⟩ := accepted_iff.mp h
  rw [answer_of_registers hregisters, handleRegistrations,
    firstRejected_eq_none.mpr hverified]

theorem status_storeRegistrations (s : RelayState) (registrations : List Registration) :
    (storeRegistrations registrations s).2.response.status =
      if (storeAll s registrations).failure = none then 200 else 500 := by
  cases h : (storeAll s registrations).failure with
  | none => simp [storeRegistrations, respond, h, Exchange.ofResponse, Http.Response.ofStatus]
  | some reason => simp [storeRegistrations, respond, h, Exchange.ofResponse, Http.Response.ofText]

theorem calls_answer_of_accepted (h : Accepted bls relay r registrations) :
    (answer bls relay r s).2.calls <+: registrations.map setCall := by
  rw [answer_of_accepted h]
  exact calls_storeAll_prefix _ registrations

theorem status_answer_of_accepted (h : Accepted bls relay r registrations) :
    ((answer bls relay r s).2.response.status = 200 ∧
      (answer bls relay r s).2.calls = registrations.map setCall) ∨
    (answer bls relay r s).2.response.status = 500 := by
  rw [answer_of_accepted h, status_storeRegistrations]
  by_cases hfailure :
      (storeAll (countStart .registerValidators s) registrations).failure = none
  · rw [if_pos hfailure]
    exact .inl ⟨rfl, calls_storeAll_of_stored _ hfailure⟩
  · rw [if_neg hfailure]
    exact .inr rfl

/-- Without an accepted post, the cache is not called. -/
theorem answer_of_not_accepted (h : ¬ ∃ registrations, Accepted bls relay r registrations) :
    (answer bls relay r s).1.cache = s.cache ∧ (answer bls relay r s).2.calls = [] := by
  rcases answer_cache_cases bls relay r s with huntouched | ⟨rs, hregisters, hverified, -⟩
  · exact huntouched
  · exact absurd ⟨rs, accepted_iff.mpr ⟨hregisters, hverified⟩⟩ h

theorem eq_setCall_of_mem_calls (h : Accepted bls relay r registrations) {call : CacheCall}
    (hmem : call ∈ (answer bls relay r s).2.calls) : ∃ g ∈ registrations, call = setCall g := by
  obtain ⟨g, hg, heq⟩ := List.mem_map.mp ((calls_answer_of_accepted h).subset hmem)
  exact ⟨g, hg, heq.symm⟩

/-- Nothing is looked up for a request. -/
theorem method_of_mem_calls {call : CacheCall} (hmem : call ∈ (answer bls relay r s).2.calls) :
    call.method = .hset := by
  by_cases h : ∃ registrations, Accepted bls relay r registrations
  · obtain ⟨registrations, haccepted⟩ := h
    obtain ⟨g, -, rfl⟩ := eq_setCall_of_mem_calls haccepted hmem
    rfl
  · rw [(answer_of_not_accepted h).2] at hmem
    cases hmem

/-! ## The metrics page -/

theorem answer_status : (answer bls relay r s).2.response.status =
    (dispatch bls relay r s).2.response.status := by
  unfold answer
  obtain ⟨s', exchange⟩ := dispatch bls relay r s
  by_cases h : r.method = "HEAD"
  · simp only [h, if_true]
    rfl
  · simp only [h, if_false]

theorem ofPath_metricsPath_of_off : Route.ofPath false Route.metricsPath.toList = none := by
  decide

/-- A relay without the metrics page has nothing at its path. -/
theorem status_metricsPath (hpprof : relay.pprof = false)
    (hpath : Http.targetPath r.target.toList = Route.metricsPath.toList) :
    (answer bls relay r s).2.response.status = 404 := by
  have hslash : Route.metricsPath.toList.head? = some '/' := by decide
  rw [answer_status, dispatch, hpprof, hpath, ofPath_metricsPath_of_off, notFound, if_pos hslash]
  rfl

/-! ## All requests -/

/-- The cache is called by accepted posts only, to store their registrations; they are answered with
200 if all of them are stored and with 500 if not. Every other request leaves the cache as it was, so
a request with another answer does. Nothing is ever looked up for a request. -/
theorem only_accepted_touch_cache (bls : Bls.Scheme) (relay : Relay) (r : Http.Request)
    (s : RelayState) :
    let answered := answer bls relay r s
    let status := answered.2.response.status
    (∀ registrations, Accepted bls relay r registrations →
      (∀ call ∈ answered.2.calls, ∃ g ∈ registrations, call = .hset
        "boost-relay:validators-registration" (publicKeyField g.message.publicKey)
        (Utf8.encode g.json)) ∧
      (status = 200 ∧ answered.2.calls.length = registrations.length ∨ status = 500)) ∧
    ((¬ ∃ registrations, Accepted bls relay r registrations) →
      answered.2.calls = [] ∧ answered.1.cache = s.cache) ∧
    (status ≠ 200 ∧ status ≠ 500 → answered.1.cache = s.cache) ∧
    (∀ call ∈ answered.2.calls, call.method = .hset) ∧
    (relay.pprof = false → Http.targetPath r.target.toList = "/debug/metrics".toList →
      status = 404) := by
  intro answered status
  refine ⟨fun registrations h => ⟨fun call hmem => ?_, ?_⟩, fun h => ?_, fun h => ?_,
    fun call hmem => method_of_mem_calls hmem, status_metricsPath⟩
  · obtain ⟨g, hg, rfl⟩ := eq_setCall_of_mem_calls h hmem
    exact ⟨g, hg, by rw [setCall, Datastore.registrationKey_eq]⟩
  · rcases status_answer_of_accepted h with ⟨hstatus, hall⟩ | hstatus
    · exact .inl ⟨hstatus, by rw [hall, List.length_map]⟩
    · exact .inr hstatus
  · exact (answer_of_not_accepted h).symm
  · apply (answer_of_not_accepted fun haccepted => ?_).1
    obtain ⟨registrations, haccepted⟩ := haccepted
    rcases status_answer_of_accepted haccepted with ⟨hstatus, -⟩ | hstatus
    · exact h.1 hstatus
    · exact h.2 hstatus

end BuilderRelay.Relay
