import BuilderRelay.Proofs.Storage.Cache
import BuilderRelay.Proofs.Signing.RegistrationJson
import BuilderRelay.Storage.Datastore

/-!
# The operations of the store

Whether the script lets the one call of an operation through decides whether the operation succeeds.
Keys have different fields, and the JSON of a registration is read as the registration.
-/

namespace BuilderRelay.Datastore

theorem registrationKey_eq : registrationKey = "boost-relay:validators-registration" := by decide

/-- The call that stores a registration. -/
def setCall (r : Registration) : CacheCall :=
  .hset registrationKey (publicKeyField r.message.publicKey) (Utf8.encode r.json)

/-- What a registration leaves in the cache. -/
def write (c : Cache) (r : Registration) : Cache :=
  c.store registrationKey (publicKeyField r.message.publicKey) (Utf8.encode r.json)

theorem set_of_error {c : Cache} {reason : Report} (h : c.script.permit .hset = .error reason)
    (r : Registration) :
    set r c = ⟨c, [setCall r],
      .error (reason.context "Failed to store validator registration")⟩ := by
  simp only [set, Cache.hset, Cache.perform, CacheCall.method, h]
  rfl

theorem set_of_ok {c : Cache} {script : FailureScripts} (h : c.script.permit .hset = .ok script)
    (r : Registration) : set r c = ⟨write { c with script } r, [setCall r], .ok ()⟩ := by
  simp only [set, Cache.hset, Cache.perform, CacheCall.method, h]
  rfl

theorem admitted_setCall_of_error {s : FailureScripts} {reason : Report}
    (h : s.permit .hset = .error reason) (r : Registration) (calls : List CacheCall) :
    s.admitted (setCall r :: calls) = s.admitted calls := by
  simp only [FailureScripts.admitted, setCall, CacheCall.method, h]

theorem admitted_setCall_of_ok {s s' : FailureScripts} (h : s.permit .hset = .ok s')
    (r : Registration) (calls : List CacheCall) :
    s.admitted (setCall r :: calls) = setCall r :: s'.admitted calls := by
  simp only [FailureScripts.admitted, setCall, CacheCall.method, h]

theorem get_of_error {c : Cache} {reason : Report} (h : c.script.permit .hget = .error reason)
    (key : Bls.PublicKey) :
    get key c = ⟨c, [.hget registrationKey (publicKeyField key)], .error reason⟩ := by
  simp only [get, Cache.hget, Cache.perform, CacheCall.method, h]
  rfl

theorem get_of_ok {c : Cache} {script : FailureScripts} (h : c.script.permit .hget = .ok script)
    (key : Bls.PublicKey) :
    get key c = ⟨{ c with script }, [.hget registrationKey (publicKeyField key)],
      decodeFound (c.lookup registrationKey (publicKeyField key))⟩ := by
  simp only [get, Cache.hget, Cache.perform, CacheCall.method, h]
  rfl

theorem count_of_error {c : Cache} {reason : Report} (h : c.script.permit .hlen = .error reason) :
    count c = ⟨c, [.hlen registrationKey], .error reason⟩ := by
  simp only [count, Cache.hlen, Cache.perform, CacheCall.method, h]

theorem count_of_ok {c : Cache} {script : FailureScripts} (h : c.script.permit .hlen = .ok script) :
    count c = ⟨{ c with script }, [.hlen registrationKey], .ok (c.length registrationKey)⟩ := by
  simp only [count, Cache.hlen, Cache.perform, CacheCall.method, h]
  rfl

theorem decodeStored_json (r : Registration) : decodeStored (Utf8.encode r.json) = .ok r := by
  rw [decodeStored, Registration.decode_json]
  rfl

/-- Registrations with the same stored value are the same. -/
theorem eq_of_encode_json {r r' : Registration} (h : Utf8.encode r.json = Utf8.encode r'.json) :
    r = r' := by
  have hread := decodeStored_json r
  rw [h, decodeStored_json] at hread
  exact (Except.ok.inj hread).symm

theorem decodeFound_some (r : Registration) :
    decodeFound (some (Utf8.encode r.json)) = .ok (some r) := by
  rw [decodeFound, decodeStored_json]
  rfl

/-- What was written for registrations is read as them. -/
theorem decodeFound_map (found : Option Registration) :
    decodeFound (found.map fun r => Utf8.encode r.json) = .ok found := by
  cases found with
  | none => rfl
  | some r => exact decodeFound_some r

theorem publicKeyField_injective {k l : Bls.PublicKey} (h : publicKeyField k = publicKeyField l) :
    k = l := by
  have hk := Json.hexField_encodePrefixed k
  rw [publicKeyField, publicKeyField] at h
  rw [h, Json.hexField_encodePrefixed] at hk
  exact (Except.ok.inj hk).symm

/-! ## Written registrations -/

variable (c : Cache) (r : Registration)

theorem lookup_write (key : Bls.PublicKey) :
    (write c r).lookup registrationKey (publicKeyField key) =
      if r.message.publicKey = key then some (Utf8.encode r.json)
      else c.lookup registrationKey (publicKeyField key) := by
  split
  · rename_i h
    subst h
    exact Cache.lookup_store_self c
  · rename_i h
    exact Cache.lookup_store_of_ne c fun hfield => h (publicKeyField_injective hfield).symm

theorem length_write :
    (write c r).length registrationKey = c.length registrationKey +
      if (c.lookup registrationKey (publicKeyField r.message.publicKey)).isSome then 0 else 1 :=
  Cache.length_store c

theorem mem_entries_write {e : CacheEntry} (h : e ∈ (write c r).entries) :
    e = ⟨registrationKey, publicKeyField r.message.publicKey, Utf8.encode r.json⟩ ∨
      e ∈ c.entries :=
  Cache.mem_entries_store c h

theorem script_foldl_write (rs : List Registration) : (rs.foldl write c).script = c.script := by
  induction rs generalizing c with
  | nil => rfl
  | cons r rs ih => exact ih (write c r)

/-- Of several registrations for a key, the last one stays. -/
theorem lookup_foldl_write (rs : List Registration) (key : Bls.PublicKey) :
    (rs.foldl write c).lookup registrationKey (publicKeyField key) =
      ((rs.filter (·.message.publicKey = key)).getLast?.map fun r => Utf8.encode r.json).or
        (c.lookup registrationKey (publicKeyField key)) := by
  induction rs generalizing c with
  | nil => rfl
  | cons r rs ih =>
      rw [List.foldl_cons, ih, lookup_write, List.filter_cons]
      by_cases hkey : r.message.publicKey = key
      · rw [if_pos hkey, if_pos (decide_eq_true hkey), List.getLast?_cons]
        cases (rs.filter (·.message.publicKey = key)).getLast? <;> rfl
      · rw [if_neg hkey, if_neg (by simpa using hkey)]

theorem get_foldl_write {c : Cache} (h : c.script .hget = none) {rs : List Registration}
    {key : Bls.PublicKey} {r : Registration}
    (hr : (rs.filter (·.message.publicKey = key)).getLast? = some r) :
    (get key (rs.foldl write c)).result = .ok (some r) := by
  have hp : (rs.foldl write c).script.permit .hget = .ok c.script := by
    rw [script_foldl_write]
    exact FailureScripts.permit_of_none h
  simp only [get_of_ok hp, lookup_foldl_write, hr, Option.map_some, Option.some_or,
    decodeFound_some]

end BuilderRelay.Datastore
