import BuilderRelay.Proofs.Relay.CacheAccess

/-!
# Which handler a request reaches

A request reaches a handler if a route takes it and the input that the handler needs can be read from
it; that input is the work the request asks for. Every other request is refused, or shown the
metrics, without a change of state.
-/

namespace BuilderRelay.Relay

variable {bls : Bls.Scheme} {relay : Relay} {r : Http.Request} {s : RelayState}

/-- What a handler is asked to do. -/
inductive Work where
  | status
  | header (request : HeaderRequest)
  | register (registrations : List Registration)

namespace Work

def endpoint : Work → Endpoint
  | status => .status
  | header _ => .getHeader
  | register _ => .registerValidators

def handle (bls : Bls.Scheme) (relay : Relay) : Work → RelayState → RelayState × Exchange
  | status, s => handleStatus s
  | header request, s => handleHeader relay request s
  | register registrations, s => handleRegistrations bls relay registrations s

def onRoute (r : Http.Request) : Route → Option Work
  | .status => some status
  | .metrics => none
  | .registerValidators => (readRegistrations r).toOption.map register
  | .getHeader path => (readHeaderPath path).toOption.map header

end Work

/-- The work that a request asks for, if it reaches a handler. -/
def work? (relay : Relay) (r : Http.Request) : Option Work :=
  (Route.ofPath relay.pprof (Http.targetPath r.target.toList)).bind fun route =>
    if route.takes r.method then Work.onRoute r route else none

/-- The endpoint that a request is counted under, if it reaches a handler. -/
def endpoint? (relay : Relay) (r : Http.Request) : Option Endpoint :=
  (relay.work? r).map Work.endpoint

theorem endpoint?_of_work {w : Work} (h : relay.work? r = some w) :
    relay.endpoint? r = some w.endpoint := by
  rw [endpoint?, h, Option.map_some]

theorem takes_head (route : Route) : route.takes "HEAD" = route.takes "GET" := by
  cases route <;> rfl

theorem endpoint?_head : relay.endpoint? { r with method := "HEAD" } =
    relay.endpoint? { r with method := "GET" } := by
  have hinput (route : Route) :
      Work.onRoute { r with method := "HEAD" } route =
        Work.onRoute { r with method := "GET" } route := by
    cases route <;> rfl
  simp only [endpoint?, work?, takes_head, hinput]

inductive Unhandled (relay : Relay) (r : Http.Request) : Prop
  | notFound (h : Route.ofPath relay.pprof (Http.targetPath r.target.toList) = none)
  | methodNotAllowed (route : Route)
      (h : Route.ofPath relay.pprof (Http.targetPath r.target.toList) = some route)
      (hmethod : ¬ route.takes r.method)
  | badHeaderPath (path : HeaderPath) (fault : PathFault)
      (h : Route.ofPath relay.pprof (Http.targetPath r.target.toList) = some (.getHeader path))
      (hpath : readHeaderPath path = .error fault)
  | badBody (fault : BodyFault)
      (h : Route.ofPath relay.pprof (Http.targetPath r.target.toList) = some .registerValidators)
      (hbody : readRegistrations r = .error fault)
  | metricsPage (h : Http.targetPath r.target.toList = Route.metricsPath.toList)

theorem path_of_metrics {pprof : Bool} {path : List Char}
    (h : Route.ofPath pprof path = some .metrics) : path = Route.metricsPath.toList := by
  unfold Route.ofPath at h
  split at h
  · cases h
  · split at h
    · cases h
    · split at h
      · rename_i hmetrics
        exact hmetrics.2
      · obtain ⟨_, _, h⟩ := Option.map_eq_some_iff.mp h
        cases h

theorem route_of_metricsPath {pprof : Bool} {route : Route}
    (h : Route.ofPath pprof Route.metricsPath.toList = some route) : route = .metrics := by
  cases pprof with
  | false => rw [ofPath_metricsPath_of_off] at h; cases h
  | true =>
      have hroute : Route.ofPath true Route.metricsPath.toList = some .metrics := by decide
      exact Option.some.inj (h.symm.trans hroute)

/-- A request that reaches no handler has one of these reasons, and one with a reason reaches
none. -/
theorem work?_eq_none_iff : relay.work? r = none ↔ Unhandled relay r := by
  constructor
  · intro h
    cases hroute : Route.ofPath relay.pprof (Http.targetPath r.target.toList) with
    | none => exact .notFound hroute
    | some route =>
        by_cases htakes : route.takes r.method
        · simp only [work?, hroute, Option.bind_some, if_pos htakes] at h
          cases route with
          | status => cases h
          | metrics => exact .metricsPage (path_of_metrics hroute)
          | registerValidators =>
              cases hbody : readRegistrations r with
              | error fault => exact .badBody fault hroute hbody
              | ok registrations => simp [Work.onRoute, hbody, Except.toOption] at h
          | getHeader path =>
              cases hpath : readHeaderPath path with
              | error fault => exact .badHeaderPath path fault hroute hpath
              | ok request => simp [Work.onRoute, hpath, Except.toOption] at h
        · exact .methodNotAllowed route hroute htakes
  · intro h
    cases h with
    | notFound h => simp [work?, h]
    | methodNotAllowed route h hmethod => simp [work?, h, hmethod]
    | badHeaderPath path fault h hpath => simp [work?, h, Work.onRoute, hpath, Except.toOption]
    | badBody fault h hbody => simp [work?, h, Work.onRoute, hbody, Except.toOption]
    | metricsPage h =>
        rw [work?, h]
        cases hroute : Route.ofPath relay.pprof Route.metricsPath.toList with
        | none => rfl
        | some route =>
            rw [route_of_metricsPath hroute]
            simp [Work.onRoute]

theorem dispatch_of_work {w : Work} (h : relay.work? r = some w) :
    dispatch bls relay r s = w.handle bls relay s := by
  obtain ⟨route, hroute, hwork⟩ := Option.bind_eq_some_iff.mp h
  obtain ⟨htakes, hwork⟩ := Option.ite_none_right_eq_some.mp hwork
  simp only [dispatch, hroute, if_pos htakes]
  cases route with
  | status =>
      cases hwork
      rfl
  | metrics => cases hwork
  | registerValidators =>
      obtain ⟨registrations, hread, rfl⟩ := Option.map_eq_some_iff.mp hwork
      cases hbody : readRegistrations r with
      | error fault =>
          rw [hbody] at hread
          cases hread
      | ok rs =>
          rw [hbody] at hread
          cases hread
          simp only [serve, hbody]
          rfl
  | getHeader path =>
      obtain ⟨request, hread, rfl⟩ := Option.map_eq_some_iff.mp hwork
      cases hpath : readHeaderPath path with
      | error fault =>
          rw [hpath] at hread
          cases hread
      | ok request' =>
          rw [hpath] at hread
          cases hread
          simp only [serve, hpath]
          rfl

theorem dispatch_of_unhandled (bls : Bls.Scheme) (s : RelayState) (h : Unhandled relay r) :
    ∃ response, dispatch bls relay r s = refuse response s := by
  cases h with
  | notFound h =>
      simp only [dispatch, h]
      exact ⟨_, rfl⟩
  | methodNotAllowed route h hmethod =>
      simp only [dispatch, h, if_neg hmethod]
      exact ⟨_, rfl⟩
  | badHeaderPath path fault h hpath =>
      simp only [dispatch, h, serve, hpath, ← apply_ite (refuse · s)]
      exact ⟨_, rfl⟩
  | badBody fault h hbody =>
      simp only [dispatch, h, serve, hbody, ← apply_ite (refuse · s)]
      exact ⟨_, rfl⟩
  | metricsPage h =>
      rw [dispatch, h]
      cases hroute : Route.ofPath relay.pprof Route.metricsPath.toList with
      | none => exact ⟨_, rfl⟩
      | some route =>
          simp only [route_of_metricsPath hroute, serve, ← apply_ite (refuse · s)]
          exact ⟨_, rfl⟩

theorem answer_state_of_no_work (h : relay.work? r = none) : (answer bls relay r s).1 = s := by
  obtain ⟨response, hrefuse⟩ := dispatch_of_unhandled bls s (work?_eq_none_iff.mp h)
  rw [answer_state, hrefuse]
  rfl

theorem answer_calls_of_no_work (h : relay.work? r = none) :
    (answer bls relay r s).2.calls = [] := by
  obtain ⟨response, hrefuse⟩ := dispatch_of_unhandled bls s (work?_eq_none_iff.mp h)
  rw [answer_calls, hrefuse]
  rfl

/-- All registrations before the one that is rejected verify. -/
theorem exists_of_firstRejected_eq_some {domain : Root} {registrations : List Registration}
    {r : Registration} {reason : Bls.Rejection}
    (h : firstRejected bls domain registrations = some (r, reason)) :
    ∃ verified rest, registrations = verified ++ r :: rest ∧
      (∀ v ∈ verified, Signing.verifyRegistration bls domain v = .ok ()) ∧
      Signing.verifyRegistration bls domain r = .error reason := by
  induction registrations with
  | nil => cases h
  | cons g rest ih =>
      cases hverify : Signing.verifyRegistration bls domain g with
      | error reason' =>
          simp only [firstRejected, hverify, Option.some.injEq, Prod.mk.injEq] at h
          obtain ⟨rfl, rfl⟩ := h
          exact ⟨[], rest, rfl, List.forall_mem_nil _, hverify⟩
      | ok _ =>
          simp only [firstRejected, hverify] at h
          obtain ⟨verified, rest', rfl, hverified, hrejected⟩ := ih h
          exact ⟨g :: verified, rest', rfl, List.forall_mem_cons.mpr ⟨hverify, hverified⟩,
            hrejected⟩

theorem status_storeRegistrations_ne (s : RelayState) (registrations : List Registration) :
    (storeRegistrations registrations s).2.response.status ≠ 400 := by
  rw [status_storeRegistrations]
  split <;> decide

/-- Registrations are answered with 400 for a signature only. -/
theorem status_eq_400_iff {registrations : List Registration}
    (h : relay.work? r = some (.register registrations)) :
    (answer bls relay r s).2.response.status = 400 ↔
      ∃ g ∈ registrations, Signing.verifyRegistration bls relay.builderDomain g ≠ .ok () := by
  rw [answer_status, dispatch_of_work h, Work.handle, handleRegistrations]
  cases hrejected : firstRejected bls relay.builderDomain registrations with
  | none =>
      have hverified := firstRejected_eq_none.mp hrejected
      refine iff_of_false (status_storeRegistrations_ne _ registrations) ?_
      rintro ⟨g, hg, hbad⟩
      exact hbad (hverified g hg)
  | some rejected =>
      obtain ⟨verified, rest, rfl, -, hverify⟩ := exists_of_firstRejected_eq_some hrejected
      refine iff_of_true rfl ⟨rejected.1, List.mem_append_cons_self, ?_⟩
      rw [hverify]
      intro hcontra
      cases hcontra

end BuilderRelay.Relay
