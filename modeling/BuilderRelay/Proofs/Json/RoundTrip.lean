import BuilderRelay.Proofs.Beacon.Documents
import BuilderRelay.Proofs.Signing.RegistrationJson

/-!
# Canonical texts

A type that is written and read as JSON has one canonical text for each of its values, and a text
that is accepted is brought to the canonical text of its value by reading and writing it. This holds
of the sync status a node answers with, of the settings of the client, and of registrations, alone
and in lists.
-/

namespace BuilderRelay

namespace Json

open Utf8

variable {α : Type} {r : Reader α} {write : α → String}

/-- What is written of the value of a text. -/
def canonical (r : Reader α) (write : α → String) (text : Bytes) : Except Fault String :=
  (decode r text).map write

structure RoundTrips (r : Reader α) (write : α → String) : Prop where
  decode_write : ∀ a, decode r (encode (write a)) = .ok a
  canonical_idem : ∀ text s, canonical r write text = .ok s →
    canonical r write (encode s) = .ok s
  canonical_eq_iff : ∀ text text' a a', decode r text = .ok a → decode r text' = .ok a' →
    (canonical r write text = canonical r write text' ↔ a = a')

theorem canonical_of_ok {text : Bytes} {a : α} (h : decode r text = .ok a) :
    canonical r write text = .ok (write a) := by
  rw [canonical, h]
  rfl

theorem exists_of_canonical_eq_ok {text : Bytes} {s : String}
    (h : canonical r write text = .ok s) : ∃ a, decode r text = .ok a ∧ write a = s := by
  cases hd : decode r text with
  | error fault =>
      rw [canonical, hd] at h
      cases h
  | ok a =>
      rw [canonical_of_ok hd] at h
      exact ⟨a, rfl, Except.ok.inj h⟩

/-- Values that are read back are written differently. -/
theorem write_injective (h : ∀ a, decode r (encode (write a)) = .ok a) {a a' : α}
    (heq : write a = write a') : a = a' := by
  have ha := h a
  rw [heq, h a'] at ha
  exact (Except.ok.inj ha).symm

theorem RoundTrips.of_decode_write (h : ∀ a, decode r (encode (write a)) = .ok a) :
    RoundTrips r write where
  decode_write := h
  canonical_idem := by
    intro text s hs
    obtain ⟨a, -, rfl⟩ := exists_of_canonical_eq_ok hs
    exact canonical_of_ok (h a)
  canonical_eq_iff := by
    intro text text' a a' ha ha'
    rw [canonical_of_ok ha, canonical_of_ok ha']
    constructor
    · intro heq
      exact write_injective h (Except.ok.inj heq)
    · intro heq
      rw [heq]

end Json

open Json (RoundTrips)

/-! ## Everything that is written and read -/

/-- All that the relay stores, posts or reads as JSON is read back from what is written of it. -/
theorem documents_round_trip :
    RoundTrips SyncStatus.responseReader SyncStatus.responseJson ∧
    RoundTrips BeaconConfig.reader BeaconConfig.json ∧
    RoundTrips RegistrationMessage.reader RegistrationMessage.json ∧
    RoundTrips Registration.reader Registration.json ∧
    RoundTrips Registration.listReader Registration.listJson := by
  refine ⟨?_, ?_, ?_, ?_, ?_⟩
  · exact .of_decode_write fun s =>
      (SyncStatus.responseForm_readBy.reads_object s.spells_responseJson).decode
  · exact .of_decode_write fun c => (BeaconConfig.form_readBy.reads_object c.spells_json).decode
  · exact .of_decode_write fun m =>
      (RegistrationMessage.form_readBy.reads_object m.spells_json).decode
  · exact .of_decode_write Registration.decode_json
  · exact .of_decode_write Registration.decode_listJson

end BuilderRelay
