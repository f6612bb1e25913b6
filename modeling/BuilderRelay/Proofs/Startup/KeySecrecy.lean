import BuilderRelay.Beacon.TrialNode
import BuilderRelay.Proofs.Relay.Requests
import BuilderRelay.Proofs.Startup.FirstFailure
import BuilderRelay.Proofs.Text.Exchange
import BuilderRelay.Relay.Listen
import Mathlib.Logic.Equiv.Basic

/-!
# The secret key stays secret

Two startups whose configurations differ in the text of the secret key only. Each stage before the
key commutes with putting another key text into what it is given, so both startups call and log the
same and fail alike. After it a key shows only as its public key: both log the same once the two
public keys are exchanged, and the relays they come to differ in the key, which requests never look
at.
-/

namespace BuilderRelay

/-! ## Another key in the same place -/

def Config.withKey (text : String) (c : Config) : Config := { c with secretKey := text }

def Resolved.withKey (text : String) (r : Resolved) : Resolved :=
  { r with config := r.config.withKey text }

def BeaconVerified.withKey (text : String) (v : BeaconVerified) : BeaconVerified :=
  { v with resolved := v.resolved.withKey text }

def DatastoreConnected.withKey (text : String) (s : DatastoreConnected) : DatastoreConnected :=
  { s with verified := s.verified.withKey text }

def Relay.withKey (key : Bls.SecretKey) (r : Relay) : Relay := { r with key }

def Prepared.withKey (key : Bls.SecretKey) (p : Prepared) : Prepared :=
  { p with relay := p.relay.withKey key }

/-- Configurations that are the same without their keys differ in the key only. -/
theorem Config.eq_withKey {c₁ c₂ : Config} (h : c₁.withKey "" = c₂.withKey "") :
    c₂ = c₁.withKey c₂.secretKey := by
  cases c₁
  cases c₂
  simp only [withKey, mk.injEq] at h ⊢
  simp only [h, and_self]

/-! ## Public keys exchanged in what is seen -/

def LogEvent.exchangeKeys (p q : Bls.PublicKey) (e : LogEvent) : LogEvent where
  level := e.level
  message := Bls.exchangeKeys p q e.message
  fields := e.fields.map fun f => (f.1, Bls.exchangeKeys p q f.2)

def RelaySummary.exchangeKeys (p q : Bls.PublicKey) (s : RelaySummary) : RelaySummary :=
  { s with publicKey := Equiv.swap p q s.publicKey }

namespace Startup

variable {p q : Bls.PublicKey}

def keyLoaded (p : Bls.PublicKey) : LogEvent :=
  ⟨.info, "Loaded relay signing key", [("pubkey", Hex.encodePrefixed p.toList)]⟩

def relayConfigured (n : Network) (domain : Root) (p : Bls.PublicKey) : LogEvent :=
  ⟨.info, "Relay service configured", [
    ("network", n.text),
    ("domain", Hex.encodePrefixed domain.toList),
    ("relay_pubkey", Hex.encodePrefixed p.toList)]⟩

theorem exchangeKeys_keyLoaded : (keyLoaded p).exchangeKeys p q = keyLoaded q := by
  have hmessage : "Loaded relay signing key".toList.length < 98 := by decide
  simp only [keyLoaded, LogEvent.exchangeKeys, List.map_cons, List.map_nil,
    Bls.exchangeKeys_of_length_lt hmessage, Bls.exchangeKeys_self]

theorem length_networkText (n : Network) : n.text.toList.length < 98 := by
  have hname : n.name.toList.length ≤ 7 := by
    cases n <;> simp only [Network.name] <;> decide
  have hversion : n.forkVersion.text.toList.length = 10 := by
    rw [ForkVersion.text, Hex.length_encodePrefixed, Vector.length_toList]
  have htext : n.text = n.name ++ " (" ++ n.forkVersion.text ++ ")" := by
    simp only [Network.text, String.append_assoc]
    rfl
  have hopen : " (".toList.length = 2 := rfl
  have hclose : ")".toList.length = 1 := rfl
  simp only [htext, String.toList_append, List.length_append]
  omega

/-- Neither the network nor the domain is long enough to have a public key in it. -/
theorem exchangeKeys_relayConfigured (n : Network) (domain : Root) :
    (relayConfigured n domain p).exchangeKeys p q = relayConfigured n domain q := by
  have hmessage : "Relay service configured".toList.length < 98 := by decide
  have hnetwork := length_networkText n
  have hdomain : (Hex.encodePrefixed domain.toList).toList.length < 98 := by
    rw [Hex.length_encodePrefixed, Vector.length_toList]
    decide
  simp only [relayConfigured, LogEvent.exchangeKeys, List.map_cons, List.map_nil,
    Bls.exchangeKeys_of_length_lt hmessage, Bls.exchangeKeys_of_length_lt hnetwork,
    Bls.exchangeKeys_of_length_lt hdomain, Bls.exchangeKeys_self]

end Startup

namespace Attempt

variable {ε α β γ : Type}

def map (f : α → β) (x : Attempt ε α) : Attempt ε β := ⟨x.calls, x.log, x.result.map f⟩

theorem map_andThen (f : α → β) (g : β → Attempt ε γ) (x : Attempt ε α) :
    (x.map f).andThen g = x.andThen fun a => g (f a) := by
  cases h : x.result <;> simp only [andThen, map, h, Except.map]

theorem andThen_map (f : β → γ) (g : α → Attempt ε β) (x : Attempt ε α) :
    (x.andThen g).map f = x.andThen fun a => (g a).map f := by
  cases h : x.result <;> simp only [andThen, map, h, Except.map]

theorem andThen_of_error {x : Attempt ε α} {e : ε} (h : x.result = .error e)
    (f : α → Attempt ε β) : x.andThen f = ⟨x.calls, x.log, .error e⟩ := by
  simp only [andThen, h]

theorem andThen_of_ok {x : Attempt ε α} {a : α} (h : x.result = .ok a) (f : α → Attempt ε β) :
    x.andThen f = ⟨x.calls ++ (f a).calls, x.log ++ (f a).log, (f a).result⟩ := by
  simp only [andThen, h]

theorem ok_of_andThen {x : Attempt ε α} {f : α → Attempt ε β} {b : β}
    (h : (x.andThen f).result = .ok b) : ∃ a, x.result = .ok a ∧ (f a).result = .ok b := by
  cases hx : x.result with
  | error e =>
      rw [andThen_of_error hx] at h
      cases h
  | ok a =>
      rw [andThen_of_ok hx] at h
      exact ⟨a, rfl, h⟩

theorem error_of_andThen {x : Attempt ε α} {f : α → Attempt ε β} {e : ε}
    (h : (x.andThen f).result = .error e) :
    x.result = .error e ∨ ∃ a, x.result = .ok a ∧ (f a).result = .error e := by
  cases hx : x.result with
  | error e' =>
      rw [andThen_of_error hx] at h
      cases h
      exact .inl rfl
  | ok a =>
      rw [andThen_of_ok hx] at h
      exact .inr ⟨a, rfl, h⟩

theorem calls_andThen {f : α → Attempt ε β} (h : ∀ a, (f a).calls = []) (x : Attempt ε α) :
    (x.andThen f).calls = x.calls := by
  cases hx : x.result with
  | error e => rw [andThen_of_error hx]
  | ok a => rw [andThen_of_ok hx, h, List.append_nil]

theorem log_prefix_andThen (x : Attempt ε α) (f : α → Attempt ε β) :
    x.log <+: (x.andThen f).log := by
  cases h : x.result with
  | error e => exact ⟨[], by rw [andThen_of_error h, List.append_nil]⟩
  | ok a => exact ⟨(f a).log, by rw [andThen_of_ok h]⟩

end Attempt

namespace Startup

variable {bls : Bls.Scheme} {d : Dependencies} {c : Config} {e : StartupError}

/-! ## Until the key -/

/-- The stages that come before the key. -/
def untilKey (d : Dependencies) (config : Config) : Attempt StartupError DatastoreConnected := do
  let resolved ← resolve config
  let verified ← verifyBeacon d.get resolved
  connectDatastore d.connect verified

theorem resolve_withKey (text : String) :
    resolve (c.withKey text) = (resolve c).map (Resolved.withKey text) := by
  simp only [resolve, Attempt.bind_eq, Attempt.andThen_map]
  rfl

theorem verifyBeacon_withKey (text : String) (r : Resolved) :
    verifyBeacon d.get (r.withKey text) = (verifyBeacon d.get r).map (.withKey text) := by
  simp only [verifyBeacon, Attempt.bind_eq, Attempt.andThen_map]
  rfl

theorem connectDatastore_withKey (text : String) (v : BeaconVerified) :
    connectDatastore d.connect (v.withKey text) =
      (connectDatastore d.connect v).map (.withKey text) := by
  simp only [connectDatastore, Attempt.bind_eq, Attempt.andThen_map]
  rfl

theorem untilKey_withKey (text : String) :
    untilKey d (c.withKey text) = (untilKey d c).map (.withKey text) := by
  simp only [untilKey, Attempt.bind_eq, resolve_withKey, Attempt.map_andThen,
    verifyBeacon_withKey, connectDatastore_withKey, Attempt.andThen_map]

/-! ## From the key on -/

/-- What is left of startup once the key is read. -/
def complete (bls : Bls.Scheme) (s : DatastoreConnected) (key : Bls.SecretKey) :
    Attempt StartupError Prepared := do
  .info "Loaded relay signing key" [("pubkey", Hex.encodePrefixed (bls.publicKey key).toList)]
  let relay ← (Relay.create bls (KeyLoaded.mk s key).options).mapError .serviceConstruction
  return { relay, cache := s.cache }

def finish (bls : Bls.Scheme) (text : String) (s : DatastoreConnected) :
    Attempt StartupError Prepared :=
  (Attempt.require (readKey text)).andThen (complete bls s)

/-- Only the reading of the key looks at its text. -/
theorem prepare_withKey (bls : Bls.Scheme) (d : Dependencies) (c : Config) (text : String) :
    prepare bls d (c.withKey text) = (untilKey d c).andThen (finish bls text) := by
  have huntil : prepare bls d (c.withKey text) =
      (untilKey d (c.withKey text)).andThen fun s =>
        finish bls s.verified.resolved.config.secretKey s := by
    simp only [prepare, stages, untilKey, finish, loadKey, Attempt.bind_eq,
      Attempt.andThen_assoc]
    rfl
  rw [huntil, untilKey_withKey, Attempt.map_andThen]
  -- What is left takes the key, but no text of a key, from what it is given.
  rfl

theorem stage_of_readKey {text : String} (h : readKey text = .error e) : e.stage = .keyMaterial := by
  unfold readKey at h
  split at h
  · cases h
    rfl
  · next bytes hbytes =>
    cases hkey : Signing.secretKeyOfBytes bytes with
    | error fault =>
        rw [hkey] at h
        cases h
        rfl
    | ok key =>
        rw [hkey] at h
        cases h

/-- The relay of a key, unless there is no address to listen on. -/
theorem complete_eq (bls : Bls.Scheme) (s : DatastoreConnected) (key : Bls.SecretKey) :
    complete bls s key =
      let o := (KeyLoaded.mk s key).options
      let domain := Signing.builderDomain o.network.forkVersion
      if Text.isBlank o.listenAddr then
        ⟨[], [keyLoaded (bls.publicKey key)],
          .error (.serviceConstruction (.plain "listen address is empty"))⟩
      else
        ⟨[], [keyLoaded (bls.publicKey key), relayConfigured o.network domain (bls.publicKey key)],
          .ok ⟨⟨o.listenAddr, o.beacon, domain, o.pprof, o.getHeaderWait, key⟩, s.cache⟩⟩ := by
  cases hblank : Text.isBlank s.verified.resolved.config.listenAddr <;>
    simp [complete, Relay.create, KeyLoaded.options, hblank, keyLoaded, relayConfigured]

theorem calls_finish (text : String) (s : DatastoreConnected) : (finish bls text s).calls = [] := by
  refine Attempt.calls_andThen (fun key => ?_) _
  rw [complete_eq]
  dsimp only
  split <;> rfl

theorem stage_of_complete {s : DatastoreConnected} {key : Bls.SecretKey}
    (h : (complete bls s key).result = .error e) : e.stage = .serviceConstruction := by
  rw [complete_eq] at h
  dsimp only at h
  split at h
  · cases h
    rfl
  · cases h

theorem stage_of_finish {text : String} {s : DatastoreConnected}
    (h : (finish bls text s).result = .error e) :
    e.stage = .keyMaterial ∨ e.stage = .serviceConstruction := by
  obtain hread | ⟨key, -, hcomplete⟩ := Attempt.error_of_andThen h
  · simp only [Attempt.require_eq] at hread
    exact .inl (stage_of_readKey hread)
  · exact .inr (stage_of_complete hcomplete)

theorem finish_of_ok {text : String} {key : Bls.SecretKey} (h : readKey text = .ok key)
    (s : DatastoreConnected) : finish bls text s = complete bls s key := by
  simp only [finish, Attempt.require_eq, h, Attempt.andThen_ok, List.nil_append]

/-- Of two keys, the second is logged as the first with the public keys exchanged, and comes to a
relay that is the same but for the key. -/
theorem complete_exchange (s : DatastoreConnected) (key₁ key₂ : Bls.SecretKey) :
    complete bls s key₂ =
      ⟨[], (complete bls s key₁).log.map (.exchangeKeys (bls.publicKey key₁) (bls.publicKey key₂)),
        (complete bls s key₁).result.map (.withKey key₂)⟩ := by
  simp only [complete_eq]
  cases hblank : Text.isBlank s.verified.resolved.config.listenAddr with
  | true =>
      simp only [KeyLoaded.options, hblank, if_true, List.map_cons, List.map_nil,
        exchangeKeys_keyLoaded]
      rfl
  | false =>
      simp only [KeyLoaded.options, hblank, Bool.false_eq_true, if_false, List.map_cons,
        List.map_nil, exchangeKeys_keyLoaded, exchangeKeys_relayConfigured]
      rfl

theorem key_of_complete {s : DatastoreConnected} {key : Bls.SecretKey} {p : Prepared}
    (h : (complete bls s key).result = .ok p) : p.relay.key = key := by
  rw [complete_eq] at h
  dsimp only at h
  split at h
  · cases h
  · cases h
    rfl

theorem prepare_of_readKey {text : String} {key : Bls.SecretKey} (h : readKey text = .ok key) :
    prepare bls d (c.withKey text) = (untilKey d c).andThen fun s => complete bls s key := by
  rw [prepare_withKey, funext (finish_of_ok h)]

end Startup

/-! ## Requests -/

namespace Relay

variable {bls : Bls.Scheme} {relay : Relay} {s : RelayState}

theorem serve_withKey (key : Bls.SecretKey) (route : Route) (r : Http.Request) :
    serve bls (relay.withKey key) route r s = serve bls relay route r s := by
  cases route <;> rfl

theorem answer_withKey (key : Bls.SecretKey) (r : Http.Request) :
    answer bls (relay.withKey key) r s = answer bls relay r s := by
  have hdispatch : dispatch bls (relay.withKey key) r s = dispatch bls relay r s := by
    simp only [dispatch, serve_withKey]
    rfl
  simp only [answer, hdispatch]

theorem run_withKey (key : Bls.SecretKey) (events : List RelayEvent) :
    run bls (relay.withKey key) events s = run bls relay events s := by
  induction events generalizing s with
  | nil => rfl
  | cons event events ih =>
      have hstep : step bls (relay.withKey key) event s = step bls relay event s := by
        cases event with
        | request r => simp only [step, answer_withKey]
        | fail m script => rfl
        | heal m => rfl
      simp only [run, hstep, ih]

end Relay

/-! ## Two startups -/

theorem secretKeyText_of_ne {text : String} (h : text ≠ "") :
    secretKeyText text = "SecretKeyHex(<redacted>)" := by
  have hempty : ¬ text.isEmpty = true := fun hempty => h (String.isEmpty_iff.mp hempty)
  rw [secretKeyText, if_neg hempty]

/-- Relays that clients cannot tell apart. -/
structure Prepared.SameToClients (bls : Bls.Scheme) (p₁ p₂ : Prepared) : Prop where
  cache : p₁.cache = p₂.cache
  requests : ∀ events s, p₁.relay.run bls events s = p₂.relay.run bls events s
  listening : ∀ signal host, p₁.relay.listen signal host = p₂.relay.listen signal host

namespace Startup

variable {bls : Bls.Scheme} {d : Dependencies} {c : Config} {text text₁ text₂ : String}

/-- Two startups whose keys are both read: what is seen of the second from its key on is what is
seen of the first, with the two public keys exchanged. -/
structure OnlyPublicKeyShows (bls : Bls.Scheme) (d : Dependencies) (c₁ c₂ : Config)
    (key₁ key₂ : Bls.SecretKey) : Prop where
  log : ∃ later, (prepare bls d c₁).log = (untilKey d c₁).log ++ later ∧
    (prepare bls d c₂).log = (untilKey d c₂).log ++
      later.map (.exchangeKeys (bls.publicKey key₁) (bls.publicKey key₂))
  /-- The same error, or relays that are the same but for the key. -/
  result : (prepare bls d c₂).result = (prepare bls d c₁).result.map (.withKey key₂)
  summary : ∀ p₁ p₂, (prepare bls d c₁).result = .ok p₁ → (prepare bls d c₂).result = .ok p₂ →
    p₂.relay.summary bls =
      (p₁.relay.summary bls).exchangeKeys (bls.publicKey key₁) (bls.publicKey key₂)
  signer : Signing.signerText bls key₂ =
    Bls.exchangeKeys (bls.publicKey key₁) (bls.publicKey key₂) (Signing.signerText bls key₁)

/-- Two startups that cannot be told apart but by their public keys. -/
structure KeyHidden (bls : Bls.Scheme) (d : Dependencies) (c₁ c₂ : Config) : Prop where
  configText : c₁.debugText = c₂.debugText
  resolvedText :
    (resolve c₁).result.map Resolved.debugText = (resolve c₂).result.map Resolved.debugText
  calls : (prepare bls d c₁).calls = (prepare bls d c₂).calls
  /-- Both logs start with what is logged before the key stage, and that is the same. -/
  earlyLog : (untilKey d c₁).log = (untilKey d c₂).log ∧
    (untilKey d c₁).log <+: (prepare bls d c₁).log ∧
    (untilKey d c₂).log <+: (prepare bls d c₂).log
  earlyFailure : ∀ e : StartupError, e.stage ≠ .keyMaterial → e.stage ≠ .serviceConstruction →
    ((prepare bls d c₁).result = .error e ↔ (prepare bls d c₂).result = .error e)
  keysRead : ∀ key₁ key₂, readKey c₁.secretKey = .ok key₁ → readKey c₂.secretKey = .ok key₂ →
    OnlyPublicKeyShows bls d c₁ c₂ key₁ key₂
  relays : ∀ p₁ p₂, (prepare bls d c₁).result = .ok p₁ → (prepare bls d c₂).result = .ok p₂ →
    p₁.SameToClients bls p₂

theorem debugText_withKey (h₁ : text₁ ≠ "") (h₂ : text₂ ≠ "") :
    (c.withKey text₁).debugText = (c.withKey text₂).debugText := by
  have hkey : secretKeyText text₁ = secretKeyText text₂ := by
    rw [secretKeyText_of_ne h₁, secretKeyText_of_ne h₂]
  unfold Config.debugText Config.withKey
  dsimp only
  rw [hkey]

theorem resolvedText_withKey (h₁ : text₁ ≠ "") (h₂ : text₂ ≠ "") :
    (resolve (c.withKey text₁)).result.map Resolved.debugText =
      (resolve (c.withKey text₂)).result.map Resolved.debugText := by
  rw [resolve_withKey, resolve_withKey]
  simp only [Attempt.map]
  cases (resolve c).result with
  | error e => rfl
  | ok r =>
      have hconfig : (r.config.withKey text₁).debugText = (r.config.withKey text₂).debugText :=
        debugText_withKey h₁ h₂
      simp only [Except.map]
      unfold Resolved.debugText Resolved.withKey
      dsimp only
      rw [hconfig]

theorem calls_prepare_withKey : (prepare bls d (c.withKey text)).calls = (untilKey d c).calls := by
  rw [prepare_withKey]
  exact Attempt.calls_andThen (calls_finish text) _

theorem log_untilKey_withKey : (untilKey d (c.withKey text)).log = (untilKey d c).log := by
  rw [untilKey_withKey]
  rfl

theorem log_untilKey_prefix :
    (untilKey d (c.withKey text)).log <+: (prepare bls d (c.withKey text)).log := by
  rw [log_untilKey_withKey, prepare_withKey]
  exact Attempt.log_prefix_andThen _ _

/-- An error of an early stage is one that startup comes to before it has read the key. -/
theorem prepare_withKey_error_iff {e : StartupError} (hkey : e.stage ≠ .keyMaterial)
    (hservice : e.stage ≠ .serviceConstruction) :
    (prepare bls d (c.withKey text)).result = .error e ↔ (untilKey d c).result = .error e := by
  rw [prepare_withKey]
  constructor
  · intro h
    obtain huntil | ⟨s, -, hfinish⟩ := Attempt.error_of_andThen h
    · exact huntil
    · exact absurd (stage_of_finish hfinish) (not_or.mpr ⟨hkey, hservice⟩)
  · intro h
    rw [Attempt.andThen_of_error h]

/-- A startup that comes to a relay has read the key. -/
theorem exists_readKey_of_prepare {p : Prepared}
    (h : (prepare bls d (c.withKey text)).result = .ok p) : ∃ key, readKey text = .ok key := by
  rw [prepare_withKey] at h
  obtain ⟨s, -, hfinish⟩ := Attempt.ok_of_andThen h
  obtain ⟨key, hread, -⟩ := Attempt.ok_of_andThen hfinish
  simp only [Attempt.require_eq] at hread
  exact ⟨key, hread⟩

theorem key_of_prepare {key : Bls.SecretKey} (hread : readKey text = .ok key) {p : Prepared}
    (h : (prepare bls d (c.withKey text)).result = .ok p) : p.relay.key = key := by
  rw [prepare_of_readKey hread] at h
  obtain ⟨s, -, hcomplete⟩ := Attempt.ok_of_andThen h
  exact key_of_complete hcomplete

section KeysRead

variable {key₁ key₂ : Bls.SecretKey} (h₁ : readKey text₁ = .ok key₁)
  (h₂ : readKey text₂ = .ok key₂)

include h₁ h₂

theorem log_exchange : ∃ later,
    (prepare bls d (c.withKey text₁)).log = (untilKey d c).log ++ later ∧
    (prepare bls d (c.withKey text₂)).log = (untilKey d c).log ++
      later.map (.exchangeKeys (bls.publicKey key₁) (bls.publicKey key₂)) := by
  rw [prepare_of_readKey h₁, prepare_of_readKey h₂]
  cases huntil : (untilKey d c).result with
  | error e =>
      refine ⟨[], ?_, ?_⟩
      · rw [Attempt.andThen_of_error huntil, List.append_nil]
      · rw [Attempt.andThen_of_error huntil, List.map_nil, List.append_nil]
  | ok s =>
      refine ⟨(complete bls s key₁).log, ?_, ?_⟩
      · rw [Attempt.andThen_of_ok huntil]
      · rw [Attempt.andThen_of_ok huntil, complete_exchange s key₁ key₂]

theorem result_exchange : (prepare bls d (c.withKey text₂)).result =
    (prepare bls d (c.withKey text₁)).result.map (.withKey key₂) := by
  rw [prepare_of_readKey h₁, prepare_of_readKey h₂]
  cases huntil : (untilKey d c).result with
  | error e =>
      rw [Attempt.andThen_of_error huntil, Attempt.andThen_of_error huntil]
      rfl
  | ok s =>
      rw [Attempt.andThen_of_ok huntil, Attempt.andThen_of_ok huntil,
        complete_exchange s key₁ key₂]

theorem eq_withKey_of_prepare {p₁ p₂ : Prepared}
    (hp₁ : (prepare bls d (c.withKey text₁)).result = .ok p₁)
    (hp₂ : (prepare bls d (c.withKey text₂)).result = .ok p₂) : p₂ = p₁.withKey key₂ := by
  have hresult : (prepare bls d (c.withKey text₂)).result =
      (prepare bls d (c.withKey text₁)).result.map (.withKey key₂) := result_exchange h₁ h₂
  rw [hp₁, hp₂] at hresult
  exact Except.ok.inj hresult

theorem onlyPublicKeyShows :
    OnlyPublicKeyShows bls d (c.withKey text₁) (c.withKey text₂) key₁ key₂ where
  log := by
    simp only [log_untilKey_withKey]
    exact log_exchange h₁ h₂
  result := result_exchange h₁ h₂
  summary p₁ p₂ hp₁ hp₂ := by
    have hkey := key_of_prepare h₁ hp₁
    rw [eq_withKey_of_prepare h₁ h₂ hp₁ hp₂]
    simp only [Relay.summary, Prepared.withKey, Relay.withKey, RelaySummary.exchangeKeys, hkey,
      Equiv.swap_apply_left]
  signer := (Bls.exchangeKeys_between (by decide) (by decide)).symm

end KeysRead

theorem sameToClients {p₁ p₂ : Prepared}
    (hp₁ : (prepare bls d (c.withKey text₁)).result = .ok p₁)
    (hp₂ : (prepare bls d (c.withKey text₂)).result = .ok p₂) : p₁.SameToClients bls p₂ := by
  obtain ⟨key₁, h₁⟩ := exists_readKey_of_prepare hp₁
  obtain ⟨key₂, h₂⟩ := exists_readKey_of_prepare hp₂
  rw [eq_withKey_of_prepare h₁ h₂ hp₁ hp₂]
  exact ⟨rfl, fun events s => (Relay.run_withKey key₂ events).symm, fun signal host => rfl⟩

/-- Nothing that is seen of startup, or of the relay it comes to, depends on the secret key except
through the public key. -/
theorem key_hidden (bls : Bls.Scheme) (d : Dependencies) {c₁ c₂ : Config}
    (hsame : c₁.withKey "" = c₂.withKey "") (h₁ : c₁.secretKey ≠ "") (h₂ : c₂.secretKey ≠ "") :
    KeyHidden bls d c₁ c₂ := by
  obtain ⟨c, text₁, text₂, rfl, rfl⟩ : ∃ c text₁ text₂,
      c₁ = Config.withKey text₁ c ∧ c₂ = Config.withKey text₂ c :=
    ⟨c₁, c₁.secretKey, c₂.secretKey, rfl, Config.eq_withKey hsame⟩
  exact {
    configText := debugText_withKey h₁ h₂
    resolvedText := resolvedText_withKey h₁ h₂
    calls := by rw [calls_prepare_withKey, calls_prepare_withKey]
    earlyLog := ⟨by rw [log_untilKey_withKey, log_untilKey_withKey], log_untilKey_prefix,
      log_untilKey_prefix⟩
    earlyFailure := fun e hkey hservice => by
      rw [prepare_withKey_error_iff hkey hservice, prepare_withKey_error_iff hkey hservice]
    keysRead := fun _ _ => onlyPublicKeyShows
    relays := fun _ _ => sameToClients }

/-- A configuration for Sepolia whose key is a number. -/
def sepoliaConfig (scalar : Nat) : Config where
  listenAddr := "127.0.0.1:18550"
  beaconUri := "http://localhost:5052"
  redisUri := "localhost:6379"
  logJson := false
  logLevel := .info
  pprof := false
  getHeaderWait := 950
  secretKey := Hex.encodePrefixed (ByteVector.bigEndian 32 scalar).toList
  network := ⟨none, false, false, false, true⟩

/-- A beacon node that is synced, and a cache that is empty. -/
def healthyDependencies : Dependencies where
  get _ := .ok (TrialNode.answer false).1
  connect _ := .ok .empty

/-- Two startups that come to a relay each. -/
theorem sepolia_key_hidden :
    (prepare Bls.scheme healthyDependencies (sepoliaConfig 1)).result.toBool = true ∧
    (prepare Bls.scheme healthyDependencies (sepoliaConfig 2)).result.toBool = true ∧
    (sepoliaConfig 1).withKey "" = (sepoliaConfig 2).withKey "" ∧
    (sepoliaConfig 1).secretKey ≠ "" ∧ (sepoliaConfig 2).secretKey ≠ "" ∧
    KeyHidden Bls.scheme healthyDependencies (sepoliaConfig 1) (sepoliaConfig 2) := by
  have hsame : (sepoliaConfig 1).withKey "" = (sepoliaConfig 2).withKey "" := by
    simp only [sepoliaConfig, Config.withKey]
  have h₁ : (sepoliaConfig 1).secretKey ≠ "" := by decide +kernel
  have h₂ : (sepoliaConfig 2).secretKey ≠ "" := by decide +kernel
  exact ⟨by decide +kernel, by decide +kernel, hsame, h₁, h₂, key_hidden _ _ hsame h₁ h₂⟩

end Startup

end BuilderRelay
