import BuilderRelay.Proofs.Relay.Counters
import BuilderRelay.Proofs.Relay.Handling

/-!
# Every handled request is counted once

A handler counts its request, then what becomes of the registrations in it, then its response, at
whichever exit it leaves. So after a run the counters are a tally of what was seen of it: of the
requests that reached a handler, of their answers, and of the calls that stored a registration.
-/

namespace BuilderRelay

namespace Metrics

/-- The counts after a request, what became of the registrations in it, and the response. -/
def counted (e : Endpoint) (outcomes : List RegistrationOutcome) (status : Nat) (m : Metrics) :
    Metrics :=
  (outcomes.foldl (fun m o => m.countRegistration o) (m.start e)).finish e status

structure Ordered (m : Metrics) : Prop where
  requests : m.requests.Ordered
  responses : m.responses.Ordered
  latencies : m.latencies.Ordered
  registrations : m.registrations.Ordered

def countOutcomes (outcomes : List RegistrationOutcome) (c : Counter) : Counter :=
  outcomes.foldl (fun c o => c.increment [o.name]) c

theorem foldl_countRegistration (outcomes : List RegistrationOutcome) (m : Metrics) :
    outcomes.foldl (fun m o => m.countRegistration o) m =
      { m with registrations := countOutcomes outcomes m.registrations } := by
  induction outcomes generalizing m with
  | nil => rfl
  | cons o outcomes ih =>
      rw [List.foldl_cons, ih]
      rfl

theorem counted_eq (e : Endpoint) (outcomes : List RegistrationOutcome) (status : Nat)
    (m : Metrics) :
    m.counted e outcomes status =
      { requests := m.requests.increment (endpointLabels e)
        responses := m.responses.increment (endpointLabels e ++ [toString status])
        latencies := m.latencies.increment (endpointLabels e)
        registrations := countOutcomes outcomes m.registrations } := by
  rw [counted, foldl_countRegistration]
  rfl

theorem ordered_countOutcomes {c : Counter} (h : c.Ordered) (outcomes : List RegistrationOutcome) :
    (countOutcomes outcomes c).Ordered := by
  induction outcomes generalizing c with
  | nil => exact h
  | cons o outcomes ih => exact ih (h.increment _)

theorem value_countOutcomes {c : Counter} (h : c.Ordered) (outcomes : List RegistrationOutcome)
    (o : RegistrationOutcome) :
    (countOutcomes outcomes c).value [o.name] = c.value [o.name] + outcomes.count o := by
  induction outcomes generalizing c with
  | nil => rfl
  | cons o' outcomes ih =>
      have hname : [o.name] = [o'.name] ↔ o' = o := by
        cases o <;> cases o' <;> decide
      change (countOutcomes outcomes (c.increment [o'.name])).value [o.name] = _
      rw [ih (h.increment _), Counter.value_increment h, List.count_cons, Nat.add_assoc]
      simp only [hname, beq_iff_eq]
      rw [Nat.add_comm (outcomes.count o)]

theorem mem_page {m : Metrics} {f : Family} (hf : f ∈ families) {sample : List String × Nat}
    (hsample : sample ∈ f.counter m) {line : String} (hline : line ∈ f.sampleLines sample) :
    line ∈ m.page := by
  refine List.mem_flatMap.mpr ⟨f, hf, ?_⟩
  unfold Family.lines
  split
  · rename_i hnil
    rw [hnil] at hsample
    cases hsample
  · exact List.mem_cons_of_mem _ (List.mem_cons_of_mem _ (List.mem_flatMap.mpr ⟨_, hsample, hline⟩))

/-- The last bucket of the latencies of an endpoint is their count. -/
theorem latencyLines_mem_page {m : Metrics} {e : Endpoint}
    (h : 0 < m.latencies.value (endpointLabels e)) :
    let labels := [("endpoint", e.pattern), ("method", e.method)]
    let n := m.latencies.value (endpointLabels e)
    sampleLine "relay_api_http_request_duration_seconds_bucket" (labels ++ [("le", "+Inf")]) n ∈
      m.page ∧
    sampleLine "relay_api_http_request_duration_seconds_count" labels n ∈ m.page := by
  have hsample := Counter.mem_of_value_pos h
  constructor
  · exact mem_page List.mem_cons_self hsample List.mem_cons_self
  · exact mem_page List.mem_cons_self hsample (List.mem_cons_of_mem _ List.mem_cons_self)

end Metrics

open Metrics (endpointLabels RegistrationOutcome)

def RelayEvent.request? : RelayEvent → Option Http.Request
  | .request r => some r
  | _ => none

namespace Relay

variable {bls : Bls.Scheme} {relay : Relay} {s : RelayState}

/-! ## One request -/

/-- What became of registrations: each call that is let through stores one, and a post that is
answered with 400 has one that is invalid. -/
def outcomes (s : RelayState) (e : Endpoint) (x : Exchange) : List RegistrationOutcome :=
  (s.cache.script.admitted x.calls).map (fun _ => .stored) ++
    if e = .registerValidators ∧ x.response.status = 400 then [.invalid] else []

theorem count_stored_outcomes (s : RelayState) (e : Endpoint) (x : Exchange) :
    (outcomes s e x).count .stored = (s.cache.script.admitted x.calls).length := by
  rw [outcomes, List.count_append, List.map_const', List.count_replicate_self]
  split <;> rfl

theorem count_invalid_outcomes (s : RelayState) (e : Endpoint) (x : Exchange) :
    (outcomes s e x).count .invalid =
      if e = .registerValidators ∧ x.response.status = 400 then 1 else 0 := by
  rw [outcomes, List.count_append, List.map_const', List.count_replicate, if_neg (by decide),
    Nat.zero_add]
  split <;> rfl

theorem metrics_storeAll (s : RelayState) (registrations : List Registration) :
    (storeAll s registrations).state.metrics =
      ((s.cache.script.admitted (storeAll s registrations).calls).map
        fun _ => RegistrationOutcome.stored).foldl (fun m o => m.countRegistration o)
        s.metrics := by
  induction registrations generalizing s with
  | nil => rfl
  | cons g rest ih =>
      cases hp : s.cache.script.permit .hset with
      | error reason =>
          simp only [storeAll, Datastore.set_of_error hp]
          rw [Datastore.admitted_setCall_of_error hp]
          rfl
      | ok script =>
          simp only [storeAll, Datastore.set_of_ok hp, List.singleton_append]
          rw [Datastore.admitted_setCall_of_ok hp, ih]
          rfl

/-- At each of its exits, a handler has counted its request, the outcomes and its response. -/
theorem metrics_handle (bls : Bls.Scheme) (relay : Relay) (w : Work) (s : RelayState) :
    let handled := w.handle bls relay s
    handled.1.metrics = s.metrics.counted w.endpoint (outcomes s w.endpoint handled.2)
      handled.2.response.status := by
  cases w with
  | status => rfl
  | header request => rfl
  | register registrations =>
      cases hrejected : firstRejected bls relay.builderDomain registrations with
      | some rejected =>
          simp only [Work.handle, handleRegistrations, hrejected]
          rfl
      | none =>
          simp only [Work.handle, handleRegistrations, hrejected]
          have hne := status_storeRegistrations_ne (countStart .registerValidators s) registrations
          simp only [outcomes, hne, and_false, if_false, List.append_nil]
          simp only [storeRegistrations, respond, countFinish, metrics_storeAll]
          rfl

theorem metrics_answer_of_work {r : Http.Request} {w : Work} (h : relay.work? r = some w) :
    let answered := answer bls relay r s
    answered.1.metrics = s.metrics.counted w.endpoint (outcomes s w.endpoint answered.2)
      answered.2.response.status := by
  have hhandled := metrics_handle bls relay w s
  rw [← dispatch_of_work h] at hhandled
  simp only [outcomes, answer_state, answer_calls, answer_status]
  exact hhandled

/-! ## What is seen of a run -/

def handledFor (relay : Relay) (e : Endpoint) (x : Http.Request × Exchange) : Bool :=
  relay.endpoint? x.1 = some e

def answeredWith (relay : Relay) (e : Endpoint) (status : Nat) (x : Http.Request × Exchange) :
    Bool :=
  relay.endpoint? x.1 = some e ∧ x.2.response.status = status

variable (bls relay)

/-- The requests of a run, each with its answer. -/
def transcript (events : List RelayEvent) (s : RelayState) : List (Http.Request × Exchange) :=
  (events.filterMap RelayEvent.request?).zip (relay.run bls events s).2

theorem transcript_cons (event : RelayEvent) (events : List RelayEvent) (s : RelayState) :
    transcript bls relay (event :: events) s =
      event.request?.toList.zip (relay.step bls event s).2 ++
        transcript bls relay events (relay.step bls event s).1 := by
  cases event <;> rfl

end Relay

/-- Counters that tell how often requests of each kind were seen, and how many registrations were
stored. -/
structure Tally (relay : Relay) (seen : List (Http.Request × Exchange)) (stored : Nat)
    (m : Metrics) : Prop where
  ordered : m.Ordered
  requests : ∀ e, m.requests.value (endpointLabels e) = seen.countP (relay.handledFor e)
  latencies : ∀ e, m.latencies.value (endpointLabels e) = seen.countP (relay.handledFor e)
  answered : ∀ e, m.responses.total (endpointLabels e) = seen.countP (relay.handledFor e)
  responses : ∀ e status, m.responses.value (endpointLabels e ++ [toString status]) =
    seen.countP (relay.answeredWith e status)
  stored : m.registrations.value [RegistrationOutcome.stored.name] = stored
  invalid : m.registrations.value [RegistrationOutcome.invalid.name] =
    seen.countP (relay.answeredWith .registerValidators 400)

namespace Tally

variable {bls : Bls.Scheme} {relay : Relay} {s : RelayState} {m : Metrics} {stored : Nat}
  {seen : List (Http.Request × Exchange)} {r : Http.Request} {x : Exchange}

theorem empty : Tally relay [] 0 .empty where
  ordered := ⟨.nil, .nil, .nil, .nil⟩
  requests _ := rfl
  latencies _ := rfl
  answered _ := rfl
  responses _ _ := rfl
  stored := rfl
  invalid := rfl

theorem unhandled (h : Tally relay seen stored m) (hr : relay.endpoint? r = none) :
    Tally relay (seen ++ [(r, x)]) stored m where
  ordered := h.ordered
  requests e := by simp [Relay.handledFor, hr, h.requests]
  latencies e := by simp [Relay.handledFor, hr, h.latencies]
  answered e := by simp [Relay.handledFor, hr, h.answered]
  responses e status := by
    rw [h.responses]
    simp [Relay.answeredWith, hr]
  stored := h.stored
  invalid := by simp [Relay.answeredWith, hr, h.invalid]

theorem countP_handledFor (e f : Endpoint) (hr : relay.endpoint? r = some f) :
    (seen ++ [(r, x)]).countP (relay.handledFor e) =
      seen.countP (relay.handledFor e) + if e = f then 1 else 0 := by
  have hiff : relay.handledFor e (r, x) = true ↔ e = f := by
    rw [Relay.handledFor, hr, decide_eq_true_eq, Option.some.injEq]
    exact eq_comm
  simp only [List.countP_append, List.countP_singleton, hiff]

theorem countP_answeredWith (e f : Endpoint) (status : Nat) (hr : relay.endpoint? r = some f) :
    (seen ++ [(r, x)]).countP (relay.answeredWith e status) =
      seen.countP (relay.answeredWith e status) +
        if e = f ∧ status = x.response.status then 1 else 0 := by
  have hiff : relay.answeredWith e status (r, x) = true ↔ e = f ∧ status = x.response.status := by
    rw [Relay.answeredWith, hr, decide_eq_true_eq, Option.some.injEq]
    exact and_congr eq_comm eq_comm
  simp only [List.countP_append, List.countP_singleton, hiff]

/-- A request that reaches a handler is counted with all that becomes of it. -/
theorem handled (h : Tally relay seen stored s.metrics) {e : Endpoint}
    (hr : relay.endpoint? r = some e) :
    Tally relay (seen ++ [(r, x)]) (stored + (s.cache.script.admitted x.calls).length)
      (s.metrics.counted e (Relay.outcomes s e x) x.response.status) := by
  rw [Metrics.counted_eq]
  obtain ⟨hordered, hrequests, hlatencies, hanswered, hresponses, hstored, hinvalid⟩ := h
  constructor
  · exact ⟨hordered.requests.increment _, hordered.responses.increment _,
      hordered.latencies.increment _, Metrics.ordered_countOutcomes hordered.registrations _⟩
  · intro f
    rw [Counter.value_increment hordered.requests, hrequests, countP_handledFor f e hr]
    simp only [Metrics.endpointLabels_inj]
  · intro f
    rw [Counter.value_increment hordered.latencies, hlatencies, countP_handledFor f e hr]
    simp only [Metrics.endpointLabels_inj]
  · intro f
    rw [Counter.total_increment, hanswered, countP_handledFor f e hr]
    simp only [Metrics.take_responseLabels]
  · intro f status
    rw [Counter.value_increment hordered.responses, hresponses, countP_answeredWith f e status hr]
    simp only [Metrics.responseLabels_inj]
  · rw [Metrics.value_countOutcomes hordered.registrations, hstored,
      Relay.count_stored_outcomes]
  · have hiff : (Endpoint.registerValidators = e ∧ 400 = x.response.status) ↔
        (e = .registerValidators ∧ x.response.status = 400) := and_congr eq_comm eq_comm
    rw [Metrics.value_countOutcomes hordered.registrations, hinvalid,
      Relay.count_invalid_outcomes, countP_answeredWith _ e 400 hr]
    simp only [hiff]

/-! ## Runs -/

theorem step (bls : Bls.Scheme) (h : Tally relay seen stored s.metrics) (event : RelayEvent) :
    let next := relay.step bls event s
    Tally relay (seen ++ event.request?.toList.zip next.2)
      (stored + (next.2.flatMap fun x => s.cache.script.admitted x.calls).length)
      next.1.metrics := by
  cases event with
  | fail m script => simpa [Relay.step, RelayEvent.request?] using h
  | heal m => simpa [Relay.step, RelayEvent.request?] using h
  | request r =>
      simp only [Relay.step, RelayEvent.request?, List.flatMap_singleton]
      cases hw : relay.work? r with
      | none =>
          rw [Relay.answer_state_of_no_work hw, Relay.answer_calls_of_no_work hw]
          exact h.unhandled (by rw [Relay.endpoint?, hw, Option.map_none])
      | some w =>
          rw [Relay.metrics_answer_of_work hw]
          exact h.handled (Relay.endpoint?_of_work hw)

theorem run (bls : Bls.Scheme) (h : Tally relay seen stored s.metrics)
    (events : List RelayEvent) :
    Tally relay (seen ++ relay.transcript bls events s)
      (stored + (relay.admittedCalls bls events s).length) (relay.run bls events s).1.metrics := by
  induction events generalizing s seen stored with
  | nil => simpa [Relay.transcript, Relay.admittedCalls, Relay.run] using h
  | cons event events ih =>
      have hnext := ih (h.step bls event)
      rw [Relay.transcript_cons, Relay.admittedCalls, List.length_append, ← List.append_assoc,
        ← Nat.add_assoc]
      exact hnext

end Tally

namespace Relay

variable {bls : Bls.Scheme} {relay : Relay} {s : RelayState}

/-- Every request of a run is answered. -/
theorem length_run (events : List RelayEvent) (s : RelayState) :
    (relay.run bls events s).2.length = (events.filterMap RelayEvent.request?).length := by
  induction events generalizing s with
  | nil => rfl
  | cons event events ih =>
      rw [run, List.length_append, ih]
      cases event with
      | request r => exact Nat.add_comm _ _
      | fail | heal => exact Nat.zero_add _

theorem method_of_mem_admittedCalls {events : List RelayEvent} {call : CacheCall}
    (h : call ∈ relay.admittedCalls bls events s) : call.method = .hset := by
  induction events generalizing s with
  | nil => cases h
  | cons event events ih =>
      rcases List.mem_append.mp h with hnow | hlater
      · obtain ⟨x, hx, hcall⟩ := List.mem_flatMap.mp hnow
        cases event with
        | request r =>
            rw [List.mem_singleton.mp hx] at hcall
            exact method_of_mem_calls (FailureScripts.mem_of_mem_admitted hcall)
        | fail | heal => cases hx
      · exact ih hlater

/-- An exchange that is seen of a run is an answer to the request it stands beside. -/
theorem exists_of_mem_transcript {events : List RelayEvent} {x : Http.Request × Exchange}
    (h : x ∈ relay.transcript bls events s) : ∃ s', x.2 = (answer bls relay x.1 s').2 := by
  induction events generalizing s with
  | nil => cases h
  | cons event events ih =>
      rw [transcript_cons] at h
      rcases List.mem_append.mp h with hnow | hlater
      · cases event with
        | request r =>
            rw [List.mem_singleton.mp hnow]
            exact ⟨s, rfl⟩
        | fail | heal => cases hnow
      · exact ih hlater

end Relay

/-! ## All runs -/

/-- After any run, the counters of an endpoint tell how many requests reached its handler and how
each of them was answered, and the counters of registrations how many calls stored one and how many
posts were answered with 400, which is for a signature. HEAD is counted as GET, and requests that
reach no handler are not counted. -/
theorem counters_of_run (bls : Bls.Scheme) (relay : Relay) (events : List RelayEvent)
    (cache : Cache) :
    let start : RelayState := ⟨cache, .empty⟩
    let counters := (relay.run bls events start).1.metrics
    let requests := events.filterMap RelayEvent.request?
    let seen := requests.zip (relay.run bls events start).2
    (relay.run bls events start).2.length = requests.length ∧
    (∀ e : Endpoint,
      let handled := seen.countP (relay.handledFor e)
      let labels := [("endpoint", e.pattern), ("method", e.method)]
      counters.requests.value [e.pattern, e.method] = handled ∧
      counters.responses.total [e.pattern, e.method] = handled ∧
      counters.latencies.value [e.pattern, e.method] = handled ∧
      (0 < handled →
        Metrics.sampleLine "relay_api_http_request_duration_seconds_bucket"
          (labels ++ [("le", "+Inf")]) handled ∈ counters.page ∧
        Metrics.sampleLine "relay_api_http_request_duration_seconds_count" labels handled ∈
          counters.page) ∧
      ∀ status, counters.responses.value [e.pattern, e.method, toString status] =
        seen.countP (relay.answeredWith e status)) ∧
    counters.registrations.value ["stored"] =
      (relay.admittedCalls bls events start).countP (·.method = .hset) ∧
    counters.registrations.value ["invalid"] =
      seen.countP (relay.answeredWith .registerValidators 400) ∧
    (∀ x ∈ seen, ∀ registrations, relay.work? x.1 = some (.register registrations) →
      (x.2.response.status = 400 ↔ ∃ g ∈ registrations,
        Signing.verifyRegistration bls relay.builderDomain g ≠ .ok ())) ∧
    (∀ r : Http.Request,
      relay.endpoint? { r with method := "HEAD" } = relay.endpoint? { r with method := "GET" }) ∧
    ∀ r, relay.Unhandled r →
      relay.endpoint? r = none ∧ ∀ s, (relay.answer bls r s).1.metrics = s.metrics := by
  intro start counters requests seen
  obtain ⟨-, hrequests, hlatencies, hanswered, hresponses, hstored, hinvalid⟩ :=
    Tally.empty.run bls (s := start) events
  refine ⟨Relay.length_run events start,
    fun e => ⟨hrequests e, hanswered e, hlatencies e, fun hpos => ?_, hresponses e⟩,
    ?_, hinvalid, fun x hx registrations hw => ?_, fun r => Relay.endpoint?_head, fun r hr => ?_⟩
  · have hlines := Metrics.latencyLines_mem_page (m := counters) (e := e)
      (Nat.lt_of_lt_of_eq hpos (hlatencies e).symm)
    rwa [hlatencies e] at hlines
  · rw [List.countP_eq_length.mpr fun call hcall =>
      decide_eq_true (Relay.method_of_mem_admittedCalls hcall)]
    exact hstored.trans (Nat.zero_add _)
  · obtain ⟨s, hanswer⟩ := Relay.exists_of_mem_transcript hx
    rw [hanswer]
    exact Relay.status_eq_400_iff hw
  · have hnone := Relay.work?_eq_none_iff.mpr hr
    refine ⟨by rw [Relay.endpoint?, hnone, Option.map_none], fun s => ?_⟩
    rw [Relay.answer_state_of_no_work hnone]

end BuilderRelay
