import BuilderRelay.Proofs.Relay.Conservation

/-!
# What becomes of a batch of registrations

A batch with a registration that does not verify is refused for the first such registration, and
nothing of it is stored. Any other batch is stored in order, up to and without the first registration
whose call fails. How many calls succeed is decided by the script alone.
-/

namespace BuilderRelay

/-! ## How far a script lets calls through -/

namespace FailureScripts

/-- How many of `n` calls of a method succeed. -/
def successes (m : CacheMethod) (n : Nat) (s : FailureScripts) : Nat :=
  match s m with
  | Option.none => n
  | some script => min script.successes n

/-- The scripts after `n` calls of a method have succeeded. -/
def spend (m : CacheMethod) (n : Nat) (s : FailureScripts) : FailureScripts :=
  fun other =>
    if other = m then (s m).map fun script => { script with successes := script.successes - n }
    else s other

variable {s s' : FailureScripts} {m : CacheMethod}

theorem successes_le (m : CacheMethod) (n : Nat) (s : FailureScripts) : s.successes m n ≤ n := by
  unfold successes
  split
  · exact Nat.le_refl n
  · exact Nat.min_le_right _ n

@[simp] theorem successes_zero (m : CacheMethod) (s : FailureScripts) : s.successes m 0 = 0 :=
  Nat.le_zero.mp (successes_le m 0 s)

@[simp] theorem spend_zero (m : CacheMethod) (s : FailureScripts) : s.spend m 0 = s := by
  funext other
  by_cases h : other = m
  · rw [spend, if_pos h, h]
    cases s m <;> rfl
  · rw [spend, if_neg h]

theorem successes_of_error {reason : Report} (h : s.permit m = .error reason) (n : Nat) :
    s.successes m n = 0 := by
  unfold permit at h
  split at h
  · cases h
  · rename_i hscript
    simp only [successes, hscript, Nat.zero_min]
  · cases h

theorem successes_succ_of_ok (h : s.permit m = .ok s') (n : Nat) :
    s.successes m (n + 1) = s'.successes m n + 1 := by
  unfold permit at h
  split at h
  · rename_i hscript
    cases h
    simp only [successes, hscript]
  · cases h
  · rename_i left reason hscript
    cases h
    simp only [successes, hscript, fail, if_true]
    omega

theorem spend_succ_of_ok (h : s.permit m = .ok s') (n : Nat) :
    s.spend m (n + 1) = s'.spend m n := by
  unfold permit at h
  split at h
  · rename_i hscript
    cases h
    funext other
    simp only [spend, hscript, Option.map_none]
  · cases h
  · rename_i left reason hscript
    cases h
    funext other
    by_cases hother : other = m
    · have hleft : left.succ - (n + 1) = left - n := Nat.succ_sub_succ left n
      simp only [spend, fail, hother, hscript, if_true, Option.map_some, hleft]
    · simp only [spend, fail, hother, if_false]

/-- Of the calls up to the first that fails, all but that one succeed. -/
theorem successes_until_failure (m : CacheMethod) (n : Nat) (s : FailureScripts) :
    s.successes m (min (s.successes m n + 1) n) = s.successes m n := by
  cases h : s m with
  | none =>
      simp only [successes, h]
      omega
  | some script =>
      simp only [successes, h]
      omega

/-- The calls that succeed come before those that fail. -/
theorem admitted_eq_take {calls : List CacheCall} (h : ∀ call ∈ calls, call.method = m) :
    s.admitted calls = calls.take (s.successes m calls.length) := by
  induction calls generalizing s with
  | nil => exact List.take_nil.symm
  | cons call calls ih =>
      obtain ⟨hcall, hcalls⟩ := List.forall_mem_cons.mp h
      cases hp : s.permit m with
      | error reason =>
          simp only [admitted, hcall, hp]
          rw [ih hcalls, successes_of_error hp, successes_of_error hp, List.take_zero,
            List.take_zero]
      | ok s' =>
          simp only [admitted, hcall, hp]
          rw [ih hcalls, List.length_cons, successes_succ_of_ok hp, List.take_succ_cons]

end FailureScripts

/-! ## Storing -/

namespace Relay

variable {bls : Bls.Scheme} {relay : Relay} {s : RelayState} {registrations : List Registration}

def storedCount (c : Cache) (registrations : List Registration) : Nat :=
  c.script.successes .hset registrations.length

/-- Storing calls the cache for the registrations that are stored and for the next one, if there is
one; that call fails. -/
theorem calls_storeAll (s : RelayState) (registrations : List Registration) :
    (storeAll s registrations).calls =
      (registrations.take (storedCount s.cache registrations + 1)).map Datastore.setCall := by
  induction registrations generalizing s with
  | nil => rfl
  | cons r rest ih =>
      cases hp : s.cache.script.permit .hset with
      | error reason =>
          simp only [storeAll, Datastore.set_of_error hp, storedCount,
            FailureScripts.successes_of_error hp]
          rfl
      | ok script =>
          simp only [storeAll, Datastore.set_of_ok hp, ih, storedCount, List.length_cons,
            FailureScripts.successes_succ_of_ok hp, List.take_succ_cons, List.map_cons]
          rfl

theorem cache_storeAll (s : RelayState) (registrations : List Registration) :
    let n := storedCount s.cache registrations
    (storeAll s registrations).state.cache = (registrations.take n).foldl Datastore.write
      { s.cache with script := s.cache.script.spend .hset n } := by
  induction registrations generalizing s with
  | nil =>
      simp only [storedCount, List.length_nil, FailureScripts.successes_zero, List.take_nil,
        List.foldl_nil, FailureScripts.spend_zero]
      rfl
  | cons r rest ih =>
      cases hp : s.cache.script.permit .hset with
      | error reason =>
          simp only [storeAll, Datastore.set_of_error hp, storedCount,
            FailureScripts.successes_of_error hp, List.take_zero, List.foldl_nil,
            FailureScripts.spend_zero]
      | ok script =>
          simp only [storeAll, Datastore.set_of_ok hp, ih, storedCount, List.length_cons,
            FailureScripts.successes_succ_of_ok hp, FailureScripts.spend_succ_of_ok hp,
            List.take_succ_cons, List.foldl_cons]
          rfl

/-- A batch is stored completely, or storing it ends with a report. -/
theorem failure_storeAll (s : RelayState) (registrations : List Registration) :
    (storeAll s registrations).failure.map (·.headline) =
      if storedCount s.cache registrations = registrations.length then none
      else some "Failed to store validator registration" := by
  induction registrations generalizing s with
  | nil =>
      rw [storedCount, List.length_nil, FailureScripts.successes_zero, if_pos rfl]
      rfl
  | cons r rest ih =>
      cases hp : s.cache.script.permit .hset with
      | error reason =>
          simp only [storeAll, Datastore.set_of_error hp, storedCount,
            FailureScripts.successes_of_error hp, List.length_cons, Nat.zero_ne_add_one, if_false]
          rfl
      | ok script =>
          simp only [storeAll, Datastore.set_of_ok hp, ih, storedCount, List.length_cons,
            FailureScripts.successes_succ_of_ok hp, Nat.add_right_cancel_iff]
          rfl

theorem admitted_storeAll (s : RelayState) (registrations : List Registration) :
    s.cache.script.admitted (storeAll s registrations).calls =
      (registrations.take (storedCount s.cache registrations)).map Datastore.setCall := by
  have hmethod : ∀ call ∈ (storeAll s registrations).calls, call.method = .hset := by
    intro call hcall
    have hcalls := calls_storeAll_prefix s registrations
    obtain ⟨r, -, rfl⟩ := List.mem_map.mp (hcalls.subset hcall)
    rfl
  have hcount : s.cache.script.successes .hset (storeAll s registrations).calls.length =
      storedCount s.cache registrations := by
    rw [calls_storeAll, List.length_map, List.length_take]
    exact FailureScripts.successes_until_failure .hset registrations.length s.cache.script
  rw [FailureScripts.admitted_eq_take hmethod, hcount, calls_storeAll, ← List.map_take,
    List.take_take, Nat.min_eq_left (Nat.le_succ _)]

/-! ## Refusing -/

theorem rejected_of_exists (h : ∃ r ∈ registrations,
    Signing.verifyRegistration bls relay.builderDomain r ≠ .ok ()) :
    ∃ r reason, firstRejected bls relay.builderDomain registrations = some (r, reason) := by
  cases hrejected : firstRejected bls relay.builderDomain registrations with
  | none =>
      obtain ⟨r, hr, hne⟩ := h
      exact absurd (firstRejected_eq_none.mp hrejected r hr) hne
  | some rejected => exact ⟨rejected.1, rejected.2, rfl⟩

theorem handleRegistrations_of_rejected {r : Registration} {reason : Bls.Rejection}
    (h : firstRejected bls relay.builderDomain registrations = some (r, reason)) :
    let handled := handleRegistrations bls relay registrations s
    let publicKey := Hex.encodePrefixed r.message.publicKey.toList
    let why := Signing.rejectionMessage reason
    handled.2.response = .ofText 400 s!"invalid signature for {publicKey}: {why}" ∧
      handled.2.calls = [] ∧ handled.1.cache = s.cache := by
  simp only [handleRegistrations, h]
  exact ⟨rfl, rfl, rfl⟩

theorem response_storeRegistrations (s : RelayState) (registrations : List Registration) :
    (storeRegistrations registrations s).2.response =
      if storedCount s.cache registrations = registrations.length then .ofStatus 200
      else .ofText 500
        "failed to store registration: Failed to store validator registration" := by
  have hfailure := failure_storeAll s registrations
  cases h : (storeAll s registrations).failure with
  | none =>
      rw [h, Option.map_none] at hfailure
      split at hfailure
      · rename_i hall
        rw [if_pos hall]
        simp only [storeRegistrations, respond, h, Exchange.ofResponse]
      · cases hfailure
  | some reason =>
      rw [h, Option.map_some] at hfailure
      split at hfailure
      · cases hfailure
      · rename_i hsome
        have hheadline : reason.headline = "Failed to store validator registration" :=
          Option.some.inj hfailure
        rw [if_neg hsome]
        simp only [storeRegistrations, respond, h, Exchange.ofResponse, hheadline]
        rfl

/-- A batch that verifies is stored as far as the calls succeed. -/
theorem handleRegistrations_of_verified
    (h : ∀ r ∈ registrations, Signing.verifyRegistration bls relay.builderDomain r = .ok ()) :
    let handled := handleRegistrations bls relay registrations s
    let n := storedCount s.cache registrations
    handled.2.calls = (registrations.take (n + 1)).map Datastore.setCall ∧
      s.cache.script.admitted handled.2.calls = (registrations.take n).map Datastore.setCall ∧
      handled.1.cache = (registrations.take n).foldl Datastore.write
        { s.cache with script := s.cache.script.spend .hset n } ∧
      handled.2.response = if n = registrations.length then .ofStatus 200 else
        .ofText 500 "failed to store registration: Failed to store validator registration" := by
  intro handled n
  have hhandled : handled =
      storeRegistrations registrations (countStart .registerValidators s) := by
    simp only [handled, handleRegistrations, firstRejected_eq_none.mpr h]
  rw [hhandled]
  refine ⟨?_, ?_, ?_, ?_⟩
  · exact calls_storeAll (countStart .registerValidators s) registrations
  · exact admitted_storeAll (countStart .registerValidators s) registrations
  · exact cache_storeAll (countStart .registerValidators s) registrations
  · exact response_storeRegistrations (countStart .registerValidators s) registrations

end Relay

/-! ## Counting -/

namespace Metrics

/-- One request of an endpoint, its response and its latency are counted, and nothing else of
requests. -/
structure RecordsOne (e : Endpoint) (status : Nat) (before after : Metrics) : Prop where
  requests : ∀ labels, after.requests.value labels =
    before.requests.value labels + if labels = [e.pattern, e.method] then 1 else 0
  responses : ∀ labels, after.responses.value labels =
    before.responses.value labels + if labels = [e.pattern, e.method, toString status] then 1 else 0
  latencies : ∀ labels, after.latencies.value labels =
    before.latencies.value labels + if labels = [e.pattern, e.method] then 1 else 0

theorem recordsOne_counted {m : Metrics} (h : m.Ordered) (e : Endpoint)
    (outcomes : List RegistrationOutcome) (status : Nat) :
    RecordsOne e status m (m.counted e outcomes status) := by
  rw [counted_eq]
  constructor
  · exact Counter.value_increment h.requests (endpointLabels e)
  · exact Counter.value_increment h.responses (endpointLabels e ++ [toString status])
  · exact Counter.value_increment h.latencies (endpointLabels e)

theorem value_registrations_counted {m : Metrics} (h : m.Ordered) (e : Endpoint)
    (outcomes : List RegistrationOutcome) (status : Nat) (o : RegistrationOutcome) :
    (m.counted e outcomes status).registrations.value [o.name] =
      m.registrations.value [o.name] + outcomes.count o := by
  rw [counted_eq]
  exact value_countOutcomes h.registrations outcomes o

end Metrics

/-! ## All batches -/

open Metrics (RegistrationOutcome RecordsOne)

namespace Relay

variable {bls : Bls.Scheme} {relay : Relay} {s : RelayState}

theorem invalid_handleRegistrations (h : s.metrics.Ordered) (registrations : List Registration) :
    let handled := handleRegistrations bls relay registrations s
    handled.1.metrics.registrations.value [RegistrationOutcome.invalid.name] =
      s.metrics.registrations.value [RegistrationOutcome.invalid.name] +
        if handled.2.response.status = 400 then 1 else 0 := by
  intro handled
  have hmetrics : handled.1.metrics = _ := metrics_handle bls relay (.register registrations) s
  rw [hmetrics, Metrics.value_registrations_counted h, count_invalid_outcomes]
  simp only [Work.endpoint, true_and]
  rfl

theorem stored_handleRegistrations (h : s.metrics.Ordered) (registrations : List Registration) :
    let handled := handleRegistrations bls relay registrations s
    handled.1.metrics.registrations.value [RegistrationOutcome.stored.name] =
      s.metrics.registrations.value [RegistrationOutcome.stored.name] +
        (s.cache.script.admitted handled.2.calls).length := by
  intro handled
  have hmetrics : handled.1.metrics = _ := metrics_handle bls relay (.register registrations) s
  rw [hmetrics, Metrics.value_registrations_counted h, count_stored_outcomes]
  rfl

theorem recordsOne_handleRegistrations (h : s.metrics.Ordered) (registrations : List Registration) :
    let handled := handleRegistrations bls relay registrations s
    RecordsOne .registerValidators handled.2.response.status s.metrics handled.1.metrics := by
  intro handled
  have hmetrics : handled.1.metrics = _ := metrics_handle bls relay (.register registrations) s
  rw [hmetrics]
  exact Metrics.recordsOne_counted h .registerValidators _ _

end Relay

/-- A batch with a registration that does not verify is answered with 400 for the first of them, and
nothing of it is stored. Of any other batch the cache is called for one registration after the other,
up to a call that fails; those before it are stored in order, so that the last one for a key stays,
and the answer is 200 if no call failed and 500 if one did. Whatever was counted before, the request,
its response and its latency are counted once, and so is each registration that is stored. -/
theorem batch_outcome (bls : Bls.Scheme) (relay : Relay) (earlier : List RelayEvent)
    (start cache : Cache) (registrations : List Registration) :
    let before := (relay.run bls earlier ⟨start, .empty⟩).1.metrics
    let answered := Relay.handleRegistrations bls relay registrations ⟨cache, before⟩
    let seen := answered.2
    let after := answered.1.metrics
    let verify := Signing.verifyRegistration bls relay.builderDomain
    ((∃ r ∈ registrations, verify r ≠ .ok ()) → ∃ verified r reason rest,
      registrations = verified ++ r :: rest ∧ (∀ v ∈ verified, verify v = .ok ()) ∧
      verify r = .error reason ∧
      let publicKey := Hex.encodePrefixed r.message.publicKey.toList
      let why := Signing.rejectionMessage reason
      seen.response = .ofText 400 s!"invalid signature for {publicKey}: {why}" ∧
      seen.calls = [] ∧ answered.1.cache = cache ∧
      after.registrations.value ["invalid"] = before.registrations.value ["invalid"] + 1 ∧
      after.registrations.value ["stored"] = before.registrations.value ["stored"]) ∧
    ((∀ r ∈ registrations, verify r = .ok ()) →
      let n := cache.script.successes .hset registrations.length
      let stored := registrations.take n
      seen.calls = (registrations.take (n + 1)).map Datastore.setCall ∧
      cache.script.admitted seen.calls = stored.map Datastore.setCall ∧
      answered.1.cache =
        stored.foldl Datastore.write { cache with script := cache.script.spend .hset n } ∧
      (∀ key, answered.1.cache.lookup Datastore.registrationKey (Datastore.publicKeyField key) =
        ((stored.filter (·.message.publicKey = key)).getLast?.map fun r => Utf8.encode r.json).or
          (cache.lookup Datastore.registrationKey (Datastore.publicKeyField key))) ∧
      after.registrations.value ["invalid"] = before.registrations.value ["invalid"] ∧
      after.registrations.value ["stored"] =
        before.registrations.value ["stored"] + stored.length ∧
      seen.response = if n = registrations.length then .ofStatus 200 else
        .ofText 500 "failed to store registration: Failed to store validator registration") ∧
    RecordsOne .registerValidators seen.response.status before after := by
  intro before answered seen after verify
  have hordered : before.Ordered := (Tally.empty.run bls (s := ⟨start, .empty⟩) earlier).ordered
  have hinvalid : after.registrations.value ["invalid"] = _ :=
    Relay.invalid_handleRegistrations (s := ⟨cache, before⟩) hordered registrations
  have hstored : after.registrations.value ["stored"] = _ :=
    Relay.stored_handleRegistrations (s := ⟨cache, before⟩) hordered registrations
  refine ⟨fun hbad => ?_, fun hverified => ?_,
    Relay.recordsOne_handleRegistrations (s := ⟨cache, before⟩) hordered registrations⟩
  · obtain ⟨r, reason, hrejected⟩ := Relay.rejected_of_exists hbad
    obtain ⟨verified, rest, heq, hbefore, hreason⟩ :=
      Relay.exists_of_firstRejected_eq_some hrejected
    obtain ⟨hresponse, hcalls, hcache⟩ :=
      Relay.handleRegistrations_of_rejected (s := ⟨cache, before⟩) hrejected
    refine ⟨verified, r, reason, rest, heq, hbefore, hreason, hresponse, hcalls, hcache, ?_, ?_⟩
    · rw [hinvalid, hresponse]
      rfl
    · rw [hstored, hcalls]
      rfl
  · obtain ⟨hcalls, hadmitted, hcache, hresponse⟩ :=
      Relay.handleRegistrations_of_verified (s := ⟨cache, before⟩) hverified
    intro n stored
    refine ⟨hcalls, hadmitted, hcache, fun key => ?_, ?_, ?_, hresponse⟩
    · rw [show answered.1.cache = _ from hcache, Datastore.lookup_foldl_write]
      rfl
    · have hstatus : ¬ seen.response.status = 400 := by
        rw [show seen.response = _ from hresponse]
        split <;> decide
      rw [hinvalid, if_neg hstatus]
      rfl
    · rw [hstored, hadmitted, List.length_map]
      rfl

end BuilderRelay
