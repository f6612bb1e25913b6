import BuilderRelay.Proofs.Beacon.Documents
import BuilderRelay.Proofs.Signing.RegistrationJson

/-!
# The layout of a document does not matter

Each text of a value is read as that value, whatever the order of its members, the space between
them, the escapes in its strings, the case of its digits, and the members that stand there besides.
A text is refused if a member is there twice or missing, or if anything but space follows it.
-/

namespace BuilderRelay

namespace Json

variable {α : Type} {F : Form α} {r : Reader α}

/-- Whether a document of that form is read whatever its layout. -/
structure ReadInAnyLayout (F : Form α) (r : Reader α) (write : α → String) : Prop where
  /-- A text is read as the value it stands for, with space before and behind it. -/
  reads : ∀ a t w w', F.spells a t → IsSpace w → IsSpace w' → decode r (w ++ (t ++ w')) = .ok a
  /-- What is written of a value is one of its texts. -/
  written : ∀ a, F.spells a (Utf8.encode (write a))
  refuses_faulty : ∀ t w rest, F.faulty t → IsSpace w →
    ∃ fault, decode r (w ++ (t ++ rest)) = .error fault
  refuses_more : ∀ a t w rest, F.spells a t → IsSpace w → (∃ b ∈ rest, isBlank b = false) →
    ∃ fault, decode r (w ++ (t ++ rest)) = .error fault ∧ fault.stop.cause = .trailingCharacters

theorem Form.ReadBy.inAnyLayout (h : F.ReadBy r fun _ => True) {write : α → String}
    (hwrite : ∀ a, F.spells a (Utf8.encode (write a))) : ReadInAnyLayout F r write where
  reads := by
    intro a t w w' hspells hw hw'
    exact decode_eq_ok_iff.mpr ⟨⟨w', none⟩, h.reads hspells hw trivial, hw'⟩
  written := hwrite
  refuses_faulty := by
    intro t w rest hfaulty hw
    obtain ⟨fault, hread⟩ : ∃ fault, r ⟨w ++ (t ++ rest), none⟩ = .error fault :=
      h.refuses hfaulty hw trivial
    exact ⟨fault, by simp only [decode, Cursor.start, hread]⟩
  refuses_more := by
    rintro a t w rest hspells hw ⟨b, hb, hblank⟩
    have hread : r ⟨w ++ (t ++ rest), none⟩ = .ok (a, ⟨rest, none⟩) := h.reads hspells hw trivial
    cases hrest : skipBlank rest with
    | nil =>
        have hall := skipBlank_eq_nil_iff.mp hrest b hb
        rw [hblank] at hall
        cases hall
    | cons c tail =>
        refine ⟨⟨⟨.trailingCharacters, c :: tail, true⟩, []⟩, ?_, rfl⟩
        simp only [decode, Cursor.start, hread, hrest]

end Json

open Json (ReadInAnyLayout)

/-- The documents that nodes and proposers send, and the settings of the client, are read in any
layout. -/
theorem documents_any_layout :
    ReadInAnyLayout SyncStatus.responseForm SyncStatus.responseReader SyncStatus.responseJson ∧
    ReadInAnyLayout BeaconConfig.form BeaconConfig.reader BeaconConfig.json ∧
    ReadInAnyLayout RegistrationMessage.form RegistrationMessage.reader RegistrationMessage.json ∧
    ReadInAnyLayout Registration.form Registration.reader Registration.json :=
  ⟨SyncStatus.responseForm_readBy.inAnyLayout SyncStatus.spells_responseJson,
    BeaconConfig.form_readBy.inAnyLayout BeaconConfig.spells_json,
    RegistrationMessage.form_readBy.inAnyLayout RegistrationMessage.spells_json,
    Registration.form_readBy.inAnyLayout Registration.spells_json⟩

end BuilderRelay
