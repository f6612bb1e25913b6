import BuilderRelay.Proofs.Json.Objects
import BuilderRelay.Signing.RegistrationJson

/-!
# The JSON of registrations

How registrations are written, and that they are read in any layout. So what is written of a
registration, or of a list of them, is read back.
-/

namespace BuilderRelay

open Json (Form Slot Implements Reader Reads)

namespace RegistrationMessage

def form : Form RegistrationMessage := .object [
  { name := "fee_recipient", part := feeRecipient, form := .bytes 20 },
  { name := "gas_limit", part := gasLimit, form := .quotedNumber },
  { name := "timestamp", part := timestamp, form := .quotedNumber },
  { name := "pubkey", part := publicKey, form := .bytes 48 }]

def slots : List (Slot Draft RegistrationMessage) := [
  { name := "fee_recipient", part := feeRecipient, form := .bytes 20,
    get := Draft.feeRecipient, set := fun v d => { d with feeRecipient := some v },
    reader := Reader.byteField 20 },
  { name := "gas_limit", part := gasLimit, form := .quotedNumber,
    get := Draft.gasLimit, set := fun v d => { d with gasLimit := some v },
    reader := Reader.quotedUInt64 },
  { name := "timestamp", part := timestamp, form := .quotedNumber,
    get := Draft.timestamp, set := fun v d => { d with timestamp := some v },
    reader := Reader.quotedUInt64 },
  { name := "pubkey", part := publicKey, form := .bytes 48,
    get := Draft.publicKey, set := fun v d => { d with publicKey := some v },
    reader := Reader.byteField 48 }]

theorem implements : Implements slots record where
  fields := rfl
  initial := by simp [slots, record]
  lawful := by
    simp only [slots, List.forall_mem_cons]
    refine ⟨?_, ?_, ?_, ?_, List.forall_mem_nil _⟩
    · exact ⟨fun _ _ => rfl, Json.bytes_readBy 20⟩
    · exact ⟨fun _ _ => rfl, Json.quotedNumber_readBy⟩
    · exact ⟨fun _ _ => rfl, Json.quotedNumber_readBy⟩
    · exact ⟨fun _ _ => rfl, Json.bytes_readBy 48⟩
  apart := by
    simp [slots, Slot.Apart]
  complete := by
    rintro ⟨_, _, _, _⟩ ⟨_, _, _, _⟩ h
    simp [slots, Slot.found] at h
    obtain ⟨rfl, rfl, rfl, rfl⟩ := h
    rfl
  missing := by
    rintro ⟨feeRecipient, gasLimit, timestamp, publicKey⟩
    cases feeRecipient <;> cases gasLimit <;> cases timestamp <;> cases publicKey <;>
      simp [slots, Slot.found, record, Draft.finish]

theorem form_readBy : form.ReadBy reader fun _ => True := implements.readBy

end RegistrationMessage

namespace Registration

def form : Form Registration := .object [
  { name := "message", part := message, form := RegistrationMessage.form },
  { name := "signature", part := signature, form := .bytes 96 }]

def slots : List (Slot Draft Registration) := [
  { name := "message", part := Registration.message, form := RegistrationMessage.form,
    get := Draft.message, set := fun v d => { d with message := some v },
    reader := RegistrationMessage.reader },
  { name := "signature", part := Registration.signature, form := .bytes 96,
    get := Draft.signature, set := fun v d => { d with signature := some v },
    reader := Reader.byteField 96 }]

theorem implements : Implements slots record where
  fields := rfl
  initial := by simp [slots, record]
  lawful := by
    simp only [slots, List.forall_mem_cons]
    refine ⟨?_, ?_, List.forall_mem_nil _⟩
    · exact ⟨fun _ _ => rfl, RegistrationMessage.form_readBy.mono fun _ _ => trivial⟩
    · exact ⟨fun _ _ => rfl, Json.bytes_readBy 96⟩
  apart := by
    simp [slots, Slot.Apart]
  complete := by
    rintro ⟨_, _⟩ ⟨_, _⟩ h
    simp [slots, Slot.found] at h
    obtain ⟨rfl, rfl⟩ := h
    rfl
  missing := by
    rintro ⟨message, signature⟩
    cases message <;> cases signature <;>
      simp [slots, Slot.found, record, Draft.finish]

theorem form_readBy : form.ReadBy reader fun _ => True := implements.readBy

end Registration

/-! ## What is written is read back -/

theorem RegistrationMessage.spells_json (m : RegistrationMessage) :
    form.spells m (Utf8.encode m.json) := by
  refine Json.spells_object (by simp) ?_
  refine .cons ⟨rfl, Json.spells_encodePrefixed m.feeRecipient⟩ ?_
  refine .cons ⟨rfl, Json.spells_quotedNumber m.gasLimit⟩ ?_
  refine .cons ⟨rfl, Json.spells_quotedNumber m.timestamp⟩ ?_
  exact .cons ⟨rfl, Json.spells_encodePrefixed m.publicKey⟩ .nil

namespace Registration

theorem spells_json (r : Registration) : form.spells r (Utf8.encode r.json) := by
  refine Json.spells_object (by simp) ?_
  refine .cons ⟨rfl, r.message.spells_json⟩ ?_
  exact .cons ⟨rfl, Json.spells_encodePrefixed r.signature⟩ .nil

theorem reads_json (r : Registration) : Reads Registration.reader r.json r :=
  form_readBy.reads_object r.spells_json

theorem decode_json (r : Registration) : Json.decode reader (Utf8.encode r.json) = .ok r :=
  r.reads_json.decode

theorem decode_listJson (rs : List Registration) :
    Json.decode listReader (Utf8.encode (listJson rs)) = .ok rs :=
  (Json.reads_list fun r _ => r.reads_json).decode

end Registration

/-! ## Lengths -/

theorem length_encode_hexText {n : Nat} (v : ByteVector n) :
    (Utf8.encode (hexText v)).length = 2 * n + 4 := by
  rw [hexText, Json.length_quoted_encodePrefixed, Vector.length_toList]

theorem RegistrationMessage.length_json (m : RegistrationMessage) :
    (Utf8.encode m.json).length ≤ 242 := by
  have hgasLimit := Json.length_quotedNumber m.gasLimit
  have htimestamp := Json.length_quotedNumber m.timestamp
  have hnames : (Utf8.encode (Json.quoted "fee_recipient")).length = 15 ∧
      (Utf8.encode (Json.quoted "gas_limit")).length = 11 ∧
      (Utf8.encode (Json.quoted "timestamp")).length = 11 ∧
      (Utf8.encode (Json.quoted "pubkey")).length = 8 := by decide
  obtain ⟨h₁, h₂, h₃, h₄⟩ := hnames
  rw [RegistrationMessage.json, Json.encode_object]
  simp [Json.memberText, Json.series, Json.comma, length_encode_hexText, h₁, h₂, h₃, h₄]
  omega

namespace Registration

theorem length_json (r : Registration) : (Utf8.encode r.json).length ≤ 463 := by
  have hmessage := r.message.length_json
  have hnames : (Utf8.encode (Json.quoted "message")).length = 9 ∧
      (Utf8.encode (Json.quoted "signature")).length = 11 := by decide
  obtain ⟨h₁, h₂⟩ := hnames
  rw [Registration.json, Json.encode_object]
  simp [Json.memberText, Json.series, Json.comma, length_encode_hexText, h₁, h₂]
  omega

/-- A list is at most 464 bytes long for each of its registrations, and two more. -/
theorem length_listJson (rs : List Registration) :
    (Utf8.encode (listJson rs)).length ≤ 464 * rs.length + 2 := by
  have hseries : (Json.series false (rs.map (Utf8.encode ∘ json))).length ≤ 464 * rs.length := by
    induction rs with
    | nil => exact Nat.le_refl 0
    | cons r rs ih =>
        have hr := r.length_json
        simp only [Json.series, Json.comma, List.map_cons, List.length_append, List.length_cons,
          Function.comp, Bool.false_eq_true, if_false, List.length_nil] at ih ⊢
        omega
  have hle := Json.length_series_le true (rs.map (Utf8.encode ∘ json))
  rw [listJson, Json.encode_array, List.map_map]
  simp only [List.length_cons, List.length_append, List.length_nil]
  omega

end Registration

end BuilderRelay
