import BuilderRelay.Proofs.Relay.Requests
import BuilderRelay.Proofs.Storage.Datastore

/-!
# What is signed is accepted

A scheme is taken to be correct: a key's signature verifies under its own public key. Then whatever
a signer signs for a network, a relay of that network stores, and for each key the last registration
of the batch is the one that is found.
-/

namespace BuilderRelay

/-- Signatures verify under the public key of the key they were made with. -/
def Bls.Scheme.Correct (bls : Bls.Scheme) : Prop :=
  ∀ key message, bls.verify (bls.publicKey key) (bls.sign key message) message = .ok ()

namespace Signing

variable {bls : Bls.Scheme}

theorem verify_sign (h : bls.Correct) (key : Bls.SecretKey) (objectRoot domain : Root) :
    verify bls (bls.publicKey key) (sign bls key objectRoot domain) objectRoot domain = .ok () :=
  h key _

theorem verifyRegistration_signRegistration (h : bls.Correct) (key : Bls.SecretKey) (domain : Root)
    (feeRecipient : ByteVector 20) (gasLimit timestamp : UInt64) :
    verifyRegistration bls domain
      (signRegistration bls key domain feeRecipient gasLimit timestamp) = .ok () :=
  verify_sign h key _ domain

end Signing

/-! ## Storing while the cache does not fail -/

namespace Relay

theorem storeAll_of_none {s : RelayState} (h : s.cache.script .hset = none)
    (rs : List Registration) :
    (storeAll s rs).failure = none ∧
      (storeAll s rs).state.cache = rs.foldl Datastore.write s.cache := by
  induction rs generalizing s with
  | nil => exact ⟨rfl, rfl⟩
  | cons r rs ih =>
      simp only [storeAll, Datastore.set_of_ok (FailureScripts.permit_of_none h)]
      exact ih h

/-! ## A batch that is posted -/

/-- A request that posts a body of JSON to where registrations are received. -/
structure Posts (r : Http.Request) (body : Bytes) : Prop where
  method : r.method = "POST"
  path : Http.targetPath r.target.toList = Endpoint.registerValidators.pattern.toList
  contentType : (r.header "content-type").any Http.isJsonContent
  content : r.body = body
  limit : body.length ≤ bodyLimit

theorem registers_of_posts {r : Http.Request} {rs : List Registration}
    (h : Posts r (Utf8.encode (Registration.listJson rs))) : Registers r rs where
  method := h.method
  path := h.path
  body := by
    have hlimit := Nat.not_lt.mpr h.limit
    simp only [readRegistrations, h.contentType, h.content, Bool.not_true, Bool.false_eq_true,
      if_false, if_neg hlimit, Registration.decode_listJson]
    rfl

def registrationPost (rs : List Registration) : Http.Request where
  method := "POST"
  target := "/eth/v1/builder/validators"
  headers := [("content-type", "application/json")]
  body := Utf8.encode (Registration.listJson rs)

/-- Up to 4519 registrations fit into a body, whatever their values are. -/
theorem posts_registrationPost {rs : List Registration} (h : rs.length ≤ 4519) :
    Posts (registrationPost rs) (Utf8.encode (Registration.listJson rs)) where
  method := rfl
  path := by
    simp only [registrationPost]
    decide
  contentType := by
    simp only [registrationPost, Http.Request.header]
    decide
  content := rfl
  limit := by
    have hlength := Registration.length_listJson rs
    unfold bodyLimit
    omega

end Relay

structure SigningJob where
  key : Bls.SecretKey
  feeRecipient : ByteVector 20
  gasLimit : UInt64
  timestamp : UInt64

def SigningJob.registration (bls : Bls.Scheme) (domain : Root) (job : SigningJob) : Registration :=
  Signing.signRegistration bls job.key domain job.feeRecipient job.gasLimit job.timestamp

/-- Of a batch that is signed for the network of a relay nothing is rejected. -/
theorem Relay.answer_of_signed {bls : Bls.Scheme} (hbls : bls.Correct) {o : RelayOptions}
    {relay : Relay} (hrelay : (Relay.create bls o).result = .ok relay) (jobs : List SigningJob)
    {request : Http.Request}
    (hrequest : Relay.Posts request (Utf8.encode (Registration.listJson
      (jobs.map (·.registration bls (Signing.builderDomain o.network.forkVersion))))))
    (s : RelayState) :
    relay.answer bls request s = Relay.storeRegistrations
      (jobs.map (·.registration bls (Signing.builderDomain o.network.forkVersion)))
      (Relay.countStart .registerValidators s) := by
  refine Relay.answer_of_verified (Relay.registers_of_posts hrequest) ?_
  rw [Relay.builderDomain_of_create hrelay]
  intro r hr
  obtain ⟨job, -, rfl⟩ := List.mem_map.mp hr
  exact Signing.verifyRegistration_signRegistration hbls job.key _ _ _ _

/-- A batch that is signed for the network of a relay is accepted by it, and then each signer is
found with the last of its registrations. -/
theorem signed_batch_accepted {bls : Bls.Scheme} (hbls : bls.Correct) {o : RelayOptions}
    {relay : Relay} (hrelay : (Relay.create bls o).result = .ok relay) (jobs : List SigningJob)
    {request : Http.Request}
    (hrequest : Relay.Posts request (Utf8.encode (Registration.listJson
      (jobs.map (·.registration bls (Signing.builderDomain o.network.forkVersion))))))
    (s : RelayState) (hset : s.cache.script .hset = none) (hget : s.cache.script .hget = none) :
    let signed := jobs.map (·.registration bls (Signing.builderDomain o.network.forkVersion))
    let answered := relay.answer bls request s
    answered.2.response.status = 200 ∧
    (∀ job ∈ jobs, ∃ r,
      (signed.filter (·.message.publicKey = bls.publicKey job.key)).getLast? = some r ∧
      (Datastore.get (bls.publicKey job.key) answered.1.cache).result = .ok (some r)) ∧
    ∀ key objectRoot domain, Signing.verify bls (bls.publicKey key)
      (Signing.sign bls key objectRoot domain) objectRoot domain = .ok () := by
  intro signed answered
  have hanswered : answered = Relay.storeRegistrations signed
      (Relay.countStart .registerValidators s) :=
    Relay.answer_of_signed hbls hrelay jobs hrequest s
  obtain ⟨hfailure, hcache⟩ :=
    Relay.storeAll_of_none (s := Relay.countStart .registerValidators s) hset signed
  refine ⟨?_, fun job hjob => ?_, Signing.verify_sign hbls⟩
  · rw [hanswered]
    simp only [Relay.storeRegistrations, hfailure]
    rfl
  · have hmem : job.registration bls (Signing.builderDomain o.network.forkVersion) ∈
        signed.filter (·.message.publicKey = bls.publicKey job.key) :=
      List.mem_filter.mpr ⟨List.mem_map_of_mem hjob, decide_eq_true rfl⟩
    have hlast := List.getLast?_isSome.mpr (List.ne_nil_of_mem hmem)
    obtain ⟨r, hr⟩ := Option.isSome_iff_exists.mp hlast
    refine ⟨r, hr, ?_⟩
    have hstored : answered.1.cache = signed.foldl Datastore.write s.cache := by
      rw [hanswered]
      exact hcache
    rw [hstored]
    exact Datastore.get_foldl_write hget hr

/-! ## Three registrations of two signers -/

/-- The scheme in use, except that a key's own signatures are accepted without a look at them. -/
noncomputable def Bls.trustingScheme : Bls.Scheme where
  publicKey := Bls.scheme.publicKey
  sign := Bls.scheme.sign
  verify key signature message :=
    open scoped Classical in
    if ∃ secret, Bls.scheme.publicKey secret = key ∧ Bls.scheme.sign secret message = signature then
      .ok ()
    else Bls.scheme.verify key signature message

theorem Bls.trustingScheme_correct : Bls.trustingScheme.Correct :=
  fun key _ => if_pos ⟨key, rfl, rfl⟩

def sampleJob (key : Bls.SecretKey) (timestamp : UInt64) : SigningJob where
  key
  feeRecipient := .fill 20 0xab
  gasLimit := 30000000
  timestamp

noncomputable def sampleRegistration (key : Bls.SecretKey) (timestamp : UInt64) : Registration :=
  (sampleJob key timestamp).registration Bls.trustingScheme
    (Signing.builderDomain sepoliaOptions.network.forkVersion)

@[simp] theorem publicKey_sampleRegistration (key : Bls.SecretKey) (timestamp : UInt64) :
    (sampleRegistration key timestamp).message.publicKey = Bls.scheme.publicKey key := rfl

def secondKey : Bls.SecretKey := ⟨2, by decide, by decide⟩

@[simp] theorem publicKey_secondKey_ne :
    Bls.scheme.publicKey secondKey ≠ Bls.scheme.publicKey sepoliaOptions.key := by
  decide +kernel

/-- The first signer registers twice, and its later registration is found. -/
theorem sepolia_registration_accepted :
    let early := sampleRegistration sepoliaOptions.key 1659000000
    let other := sampleRegistration secondKey 1659000000
    let late := sampleRegistration sepoliaOptions.key 1659000012
    ∃ relay, (Relay.create Bls.trustingScheme sepoliaOptions).result = .ok relay ∧
      let answered := relay.answer Bls.trustingScheme
        (Relay.registrationPost [early, other, late]) ⟨.empty, .empty⟩
      answered.2.response.status = 200 ∧
      (Datastore.get (Bls.scheme.publicKey sepoliaOptions.key) answered.1.cache).result =
        .ok (some late) ∧
      (Datastore.get (Bls.scheme.publicKey secondKey) answered.1.cache).result =
        .ok (some other) := by
  intro early other late
  let jobs := [sampleJob sepoliaOptions.key 1659000000, sampleJob secondKey 1659000000,
    sampleJob sepoliaOptions.key 1659000012]
  have hposts : Relay.Posts (Relay.registrationPost [early, other, late]) _ :=
    Relay.posts_registrationPost (by decide : [early, other, late].length ≤ 4519)
  obtain ⟨hstatus, hfound, -⟩ := signed_batch_accepted Bls.trustingScheme_correct
    (o := sepoliaOptions) rfl jobs hposts ⟨.empty, .empty⟩ rfl rfl
  have hlate : ([early, other, late].filter
      (·.message.publicKey = Bls.scheme.publicKey sepoliaOptions.key)).getLast? = some late := by
    simp [early, other, late]
  have hother : ([early, other, late].filter
      (·.message.publicKey = Bls.scheme.publicKey secondKey)).getLast? = some other := by
    simp [early, other, late, publicKey_secondKey_ne.symm]
  obtain ⟨r₁, hr₁, hget₁⟩ := hfound (sampleJob sepoliaOptions.key 1659000000) (by simp [jobs])
  obtain ⟨r₂, hr₂, hget₂⟩ := hfound (sampleJob secondKey 1659000000) (by simp [jobs])
  rw [Option.some.inj (hr₁.symm.trans hlate)] at hget₁
  rw [Option.some.inj (hr₂.symm.trans hother)] at hget₂
  exact ⟨_, rfl, hstatus, hget₁, hget₂⟩

end BuilderRelay
