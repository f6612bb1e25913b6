import BuilderRelay.Signing.RegistrationJson
import BuilderRelay.Storage.Cache
import BuilderRelay.Storage.Key

/-!
# The store of registrations

Registrations live in one hash of the cache, as JSON, under the lower-case prefixed hexadecimal of
their public keys. Every operation is one cache call.
-/

namespace BuilderRelay.Datastore

def cachePrefix : String := "boost-relay"

def registrationKey : String := keyWithPrefix cachePrefix ["validators-registration"]

def publicKeyField (key : Bls.PublicKey) : String := Hex.encodePrefixed key.toList

/-- Stores a registration in place of an earlier one for the same key. -/
def set (r : Registration) (c : Cache) : Cache.Outcome Unit :=
  (c.hset registrationKey (publicKeyField r.message.publicKey) (Utf8.encode r.json)).mapResult
    fun result => result.mapError (Report.context "Failed to store validator registration")

def decodeStored (bytes : Bytes) : Except Report Registration :=
  (Json.decode Registration.reader bytes).mapError fun fault =>
    ⟨"Stored validator registration is not valid JSON", [fault.message bytes]⟩

def decodeFound : Option Bytes → Except Report (Option Registration)
  | none => .ok none
  | some bytes => (decodeStored bytes).map some

def get (key : Bls.PublicKey) (c : Cache) : Cache.Outcome (Option Registration) :=
  (c.hget registrationKey (publicKeyField key)).mapResult fun result => result.bind decodeFound

/-- How many keys have registrations. -/
def count (c : Cache) : Cache.Outcome Nat := c.hlen registrationKey

end BuilderRelay.Datastore
