import BuilderRelay.Proofs.Relay.SignedBatch
import BuilderRelay.Proofs.Storage.FiniteMap

/-!
# What the relay stores

Whatever is requested, and however the cache fails, each entry of the cache is the JSON of a
registration that verifies, under the field of its public key. The invariant is that the cache
represents a finite map of such registrations; a request extends that map by the registrations it
stores, and by nothing else.
-/

namespace BuilderRelay

open Datastore (registrationKey publicKeyField Registry Represents)

structure EntryOf (bls : Bls.Scheme) (domain : Root) (r : Registration) (e : CacheEntry) :
    Prop where
  key : e.key = registrationKey
  field : e.field = publicKeyField r.message.publicKey
  value : e.value = Utf8.encode r.json
  verified : Signing.verifyRegistration bls domain r = .ok ()

/-- Whether one of the calls writes a registration for a key. -/
def StoredBy (calls : List CacheCall) (key : Bls.PublicKey) : Prop :=
  ∃ value, .hset registrationKey (publicKeyField key) value ∈ calls

theorem storedBy_append {calls later : List CacheCall} {key : Bls.PublicKey} :
    StoredBy (calls ++ later) key ↔ StoredBy calls key ∨ StoredBy later key := by
  simp only [StoredBy, List.mem_append, exists_or]

theorem storedBy_cons_setCall {r : Registration} {key : Bls.PublicKey} {calls : List CacheCall} :
    StoredBy (Datastore.setCall r :: calls) key ↔
      key = r.message.publicKey ∨ StoredBy calls key := by
  constructor
  · rintro ⟨value', h⟩
    rcases List.mem_cons.mp h with heq | hmem
    · exact .inl (Datastore.publicKeyField_injective (CacheCall.hset.inj heq).2.1)
    · exact .inr ⟨value', hmem⟩
  · rintro (rfl | ⟨value', h⟩)
    · exact ⟨_, List.mem_cons_self⟩
    · exact ⟨value', List.mem_cons_of_mem _ h⟩

/-! ## The invariant -/

/-- A cache that represents a map of registrations that verify, and holds nothing else. -/
structure Holds (bls : Bls.Scheme) (domain : Root) (c : Cache) (g : Registry) : Prop where
  represents : Represents c g
  entries : ∀ e ∈ c.entries, ∃ r, EntryOf bls domain r e
  bound : ∀ key r, g.bound.lookup key = some r →
    r.message.publicKey = key ∧ Signing.verifyRegistration bls domain r = .ok ()

variable {bls : Bls.Scheme} {domain : Root} {c : Cache} {g : Registry} {s : RelayState}

namespace Holds

theorem empty : Holds bls domain .empty .empty where
  represents := Datastore.represents_empty
  entries _ h := nomatch h
  bound _ _ h := nomatch h

theorem rescript (h : Holds bls domain c g) (script : FailureScripts) :
    Holds bls domain { c with script } { g with script } :=
  ⟨h.represents.rescript script, h.entries, h.bound⟩

theorem write (h : Holds bls domain c g) {r : Registration}
    (hr : Signing.verifyRegistration bls domain r = .ok ()) :
    Holds bls domain (Datastore.write c r)
      { g with bound := g.bound.insert r.message.publicKey r } where
  represents := h.represents.write r
  entries e he := by
    rcases Datastore.mem_entries_write c r he with heq | hmem
    · exact ⟨r, by rw [heq], by rw [heq], by rw [heq], hr⟩
    · exact h.entries e hmem
  bound key r' hlookup := by
    by_cases hkey : key = r.message.publicKey
    · subst hkey
      rw [Finmap.lookup_insert] at hlookup
      cases hlookup
      exact ⟨rfl, hr⟩
    · rw [Finmap.lookup_insert_of_ne _ hkey] at hlookup
      exact h.bound key r' hlookup

/-- Storing extends the map by the registrations whose calls are let through. -/
theorem storeAll (h : Holds bls domain s.cache g) {rs : List Registration}
    (hrs : ∀ r ∈ rs, Signing.verifyRegistration bls domain r = .ok ()) :
    ∃ g', Holds bls domain (Relay.storeAll s rs).state.cache g' ∧
      ∀ key, key ∈ g'.bound ↔ key ∈ g.bound ∨
        StoredBy (s.cache.script.admitted (Relay.storeAll s rs).calls) key := by
  induction rs generalizing s g with
  | nil => exact ⟨g, h, fun key => by simp [Relay.storeAll, FailureScripts.admitted, StoredBy]⟩
  | cons r rs ih =>
      obtain ⟨hr, hrs⟩ := List.forall_mem_cons.mp hrs
      -- A call that fails ends the batch, and is none of those that were let through.
      cases hp : s.cache.script.permit .hset with
      | error reason =>
          simp only [Relay.storeAll, Datastore.set_of_error hp]
          rw [Datastore.admitted_setCall_of_error hp]
          exact ⟨g, h, fun key => by simp [FailureScripts.admitted, StoredBy]⟩
      | ok script =>
          simp only [Relay.storeAll, Datastore.set_of_ok hp]
          obtain ⟨g', hholds, hbound⟩ := ih (s := Relay.countRegistration .stored
            { s with cache := _ }) ((h.rescript script).write hr) hrs
          refine ⟨g', hholds, fun key => ?_⟩
          rw [List.singleton_append, Datastore.admitted_setCall_of_ok hp, storedBy_cons_setCall,
            hbound, Finmap.mem_insert, or_assoc, or_left_comm]
          rfl

variable {relay : Relay}

theorem step (hs : Holds bls relay.builderDomain s.cache g) (event : RelayEvent) :
    ∃ g', Holds bls relay.builderDomain (relay.step bls event s).1.cache g' ∧
      ∀ key, key ∈ g'.bound ↔ key ∈ g.bound ∨
        StoredBy ((relay.step bls event s).2.flatMap fun exchange =>
          s.cache.script.admitted exchange.calls) key := by
  cases event with
  | fail m script =>
      exact ⟨_, hs.rescript _, fun key => by simp [Relay.step, StoredBy]⟩
  | heal m =>
      exact ⟨_, hs.rescript _, fun key => by simp [Relay.step, StoredBy]⟩
  | request r =>
      obtain ⟨hcache, hcalls⟩ | ⟨rs, -, hverified, hcache, hcalls⟩ :=
        Relay.answer_cache_cases bls relay r s
      · refine ⟨g, ?_, fun key => ?_⟩
        · exact hcache ▸ hs
        · simp [Relay.step, hcalls, FailureScripts.admitted, StoredBy]
      · obtain ⟨g', hholds, hbound⟩ :=
          storeAll (s := Relay.countStart .registerValidators s) hs hverified
        refine ⟨g', ?_, fun key => ?_⟩
        · exact hcache ▸ hholds
        · simp only [Relay.step, List.flatMap_singleton, hcalls]
          exact hbound key

theorem run (hs : Holds bls relay.builderDomain s.cache g) (events : List RelayEvent) :
    ∃ g', Holds bls relay.builderDomain (relay.run bls events s).1.cache g' ∧
      ∀ key, key ∈ g'.bound ↔ key ∈ g.bound ∨
        StoredBy (relay.admittedCalls bls events s) key := by
  induction events generalizing s g with
  | nil => exact ⟨g, hs, fun key => by simp [Relay.admittedCalls, StoredBy]⟩
  | cons event events ih =>
      obtain ⟨g₁, hs₁, hbound₁⟩ := hs.step event
      obtain ⟨g₂, hs₂, hbound₂⟩ := ih hs₁
      refine ⟨g₂, hs₂, fun key => ?_⟩
      rw [hbound₂, hbound₁, Relay.admittedCalls, storedBy_append, or_assoc]

theorem get (h : Holds bls domain c g) (key : Bls.PublicKey) :
    match c.script.permit .hget with
    | .error reason => (Datastore.get key c).result = .error reason
    | .ok _ => (Datastore.get key c).result = .ok none ∨
        ∃ r, (Datastore.get key c).result = .ok (some r) ∧ r.message.publicKey = key ∧
          Signing.verifyRegistration bls domain r = .ok () := by
  split
  · rename_i reason hp
    rw [Datastore.get_of_error hp]
  · rename_i script hp
    rw [Datastore.get_of_ok hp, h.represents.lookup, Datastore.decodeFound_map]
    cases hlookup : g.bound.lookup key with
    | none => exact .inl rfl
    | some r => exact .inr ⟨r, rfl, h.bound key r hlookup⟩

theorem count (h : Holds bls domain c g) :
    match c.script.permit .hlen with
    | .error reason => (Datastore.count c).result = .error reason
    | .ok _ => (Datastore.count c).result = .ok g.bound.keys.card := by
  split
  · rename_i reason hp
    rw [Datastore.count_of_error hp]
  · rename_i script hp
    rw [Datastore.count_of_ok hp, h.represents.length]

end Holds

/-! ## All runs -/

/-- Whatever a relay is asked, in whatever order and with whatever failures of the cache between,
its cache only ever holds registrations that verify, each under its own public key. So a key is
found with a registration of its own or not at all, and the keys that are counted are those for
which a registration has been stored. -/
theorem run_stores_verified {bls : Bls.Scheme} {o : RelayOptions} {relay : Relay}
    (h : (Relay.create bls o).result = .ok relay) (events : List RelayEvent) (metrics : Metrics) :
    let start : RelayState := ⟨.empty, metrics⟩
    let cache := (relay.run bls events start).1.cache
    let verified (r : Registration) : Prop :=
      Signing.verify bls r.message.publicKey r.signature (Signing.registrationRoot r.message)
        (Signing.builderDomain o.network.forkVersion) = .ok ()
    (∀ e ∈ cache.entries, ∃ r : Registration,
      e.key = "boost-relay:validators-registration" ∧
      e.field = "0x" ++ Hex.encode r.message.publicKey.toList ∧
      e.value = Utf8.encode r.json ∧ verified r) ∧
    (∀ key, match cache.script.permit .hget with
      | .error reason => (Datastore.get key cache).result = .error reason
      | .ok _ => (Datastore.get key cache).result = .ok none ∨
          ∃ r, (Datastore.get key cache).result = .ok (some r) ∧ r.message.publicKey = key ∧
            verified r) ∧
    ∃ keys : Finset Bls.PublicKey,
      (∀ key, key ∈ keys ↔ StoredBy (relay.admittedCalls bls events start) key) ∧
      match cache.script.permit .hlen with
      | .error reason => (Datastore.count cache).result = .error reason
      | .ok _ => (Datastore.count cache).result = .ok keys.card := by
  intro start cache verified
  have hdomain := Relay.builderDomain_of_create h
  have hstart : Holds bls relay.builderDomain start.cache .empty := .empty
  obtain ⟨g, hholds, hbound⟩ := hstart.run events
  rw [hdomain] at hholds
  refine ⟨fun e he => ?_, hholds.get, g.bound.keys, fun key => ?_, hholds.count⟩
  · obtain ⟨r, hkey, hfield, hvalue, hverified⟩ := hholds.entries e he
    exact ⟨r, hkey.trans Datastore.registrationKey_eq, hfield, hvalue, hverified⟩
  · rw [Finmap.mem_keys, hbound]
    exact or_iff_right Finmap.notMem_empty

/-- The cache fails at the second of two registrations: the first is in the cache, and counted. -/
theorem sepolia_stores_verified :
    let bls := Bls.trustingScheme
    let first := sampleRegistration sepoliaOptions.key 1659000000
    let second := sampleRegistration secondKey 1659000000
    ∃ relay, (Relay.create bls sepoliaOptions).result = .ok relay ∧
      let cache := (relay.run bls [
        .fail .hset ⟨1, .plain "connection lost"⟩,
        .request (Relay.registrationPost [first, second]),
        .heal .hset] ⟨.empty, .empty⟩).1.cache
      cache.entries = [⟨"boost-relay:validators-registration",
        "0x" ++ Hex.encode first.message.publicKey.toList, Utf8.encode first.json⟩] ∧
      Signing.verify bls first.message.publicKey first.signature
        (Signing.registrationRoot first.message)
        (Signing.builderDomain Network.sepolia.forkVersion) = .ok () ∧
      (Datastore.count cache).result = .ok 1 := by
  intro bls first second
  obtain ⟨relay, hrelay⟩ : ∃ relay, (Relay.create bls sepoliaOptions).result = .ok relay :=
    ⟨_, rfl⟩
  have hposts : Relay.Posts (Relay.registrationPost [first, second]) _ :=
    Relay.posts_registrationPost (by decide : [first, second].length ≤ 4519)
  have hanswer (s : RelayState) : relay.answer bls (Relay.registrationPost [first, second]) s =
      Relay.storeRegistrations [first, second] (Relay.countStart .registerValidators s) :=
    Relay.answer_of_signed Bls.trustingScheme_correct hrelay
      [sampleJob sepoliaOptions.key 1659000000, sampleJob secondKey 1659000000] hposts s
  let events : List RelayEvent := [.fail .hset ⟨1, .plain "connection lost"⟩,
    .request (Relay.registrationPost [first, second]), .heal .hset]
  have hentries : (relay.run bls events ⟨.empty, .empty⟩).1.cache.entries = [⟨registrationKey,
      publicKeyField first.message.publicKey, Utf8.encode first.json⟩] := by
    simp only [events, Relay.run, Relay.step, hanswer]
    rfl
  have hcalls : relay.admittedCalls bls events ⟨.empty, .empty⟩ = [Datastore.setCall first] := by
    simp only [events, Relay.admittedCalls, Relay.step, hanswer]
    rfl
  obtain ⟨hheld, -, keys, hkeys, hcount⟩ := run_stores_verified hrelay events .empty
  rw [hentries] at hheld
  obtain ⟨r, -, -, hvalue, hfirst⟩ := hheld _ (List.mem_singleton_self _)
  -- The entry is opened first: unifying with it as it stands would evaluate the JSON.
  dsimp only at hvalue
  obtain rfl : first = r := Datastore.eq_of_encode_json hvalue
  have hkey : keys = {first.message.publicKey} := by
    ext key
    rw [hkeys, hcalls, storedBy_cons_setCall, Finset.mem_singleton]
    simp [StoredBy]
  obtain ⟨script, hpermit⟩ : ∃ script, (relay.run bls events ⟨.empty, .empty⟩).1.cache.script.permit
      .hlen = .ok script := by
    simp only [events, Relay.run, Relay.step, hanswer]
    exact ⟨_, rfl⟩
  rw [hpermit, hkey, Finset.card_singleton] at hcount
  refine ⟨relay, hrelay, ?_, hfirst, hcount⟩
  rw [← Datastore.registrationKey_eq]
  exact hentries

end BuilderRelay
