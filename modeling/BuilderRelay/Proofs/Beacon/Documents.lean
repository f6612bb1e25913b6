import BuilderRelay.Beacon.ClientConfig
import BuilderRelay.Beacon.SyncStatus
import BuilderRelay.Proofs.Json.Objects

/-!
# The documents of beacon nodes and their clients

How a sync status and the settings of a client are written as JSON, and that their readers read them
in any layout. What is written of them is one of their texts.
-/

namespace BuilderRelay

open Json (Form Slot Implements Reader)

/-! ## The sync status of a node -/

namespace SyncStatus

/-- A node may leave out that it is not optimistic, and that its execution layer is not offline. -/
def form : Form SyncStatus := .object [
  { name := "head_slot", part := headSlot, form := .quotedNumber },
  { name := "sync_distance", part := syncDistance, form := .quotedNumber },
  { name := "is_syncing", part := isSyncing, form := .boolean },
  { name := "is_optimistic", part := isOptimistic, form := .boolean, default := some false },
  { name := "el_offline", part := elOffline, form := .boolean, default := some false }]

def responseForm : Form SyncStatus := .object [{ name := "data", part := id, form }]

def slots : List (Slot Draft SyncStatus) := [
  { name := "head_slot", part := headSlot, form := .quotedNumber,
    get := Draft.headSlot, set := fun v d => { d with headSlot := some v },
    reader := Reader.quotedUInt64 },
  { name := "sync_distance", part := syncDistance, form := .quotedNumber,
    get := Draft.syncDistance, set := fun v d => { d with syncDistance := some v },
    reader := Reader.quotedUInt64 },
  { name := "is_syncing", part := isSyncing, form := .boolean,
    get := Draft.isSyncing, set := fun v d => { d with isSyncing := some v },
    reader := Reader.boolean },
  { name := "is_optimistic", part := isOptimistic, form := .boolean, default := some false,
    get := Draft.isOptimistic, set := fun v d => { d with isOptimistic := some v },
    reader := Reader.boolean, required := false },
  { name := "el_offline", part := elOffline, form := .boolean, default := some false,
    get := Draft.elOffline, set := fun v d => { d with elOffline := some v },
    reader := Reader.boolean, required := false }]

theorem implements : Implements slots record where
  fields := rfl
  initial := by simp [slots, record]
  lawful := by
    simp only [slots, List.forall_mem_cons]
    refine ⟨?_, ?_, ?_, ?_, ?_, List.forall_mem_nil _⟩
    · exact ⟨fun _ _ => rfl, Json.quotedNumber_readBy⟩
    · exact ⟨fun _ _ => rfl, Json.quotedNumber_readBy⟩
    · exact ⟨fun _ _ => rfl, Json.boolean_readBy⟩
    · exact ⟨fun _ _ => rfl, Json.boolean_readBy⟩
    · exact ⟨fun _ _ => rfl, Json.boolean_readBy⟩
  apart := by
    simp [slots, Slot.Apart]
  complete := by
    rintro ⟨_, _, _, _, _⟩ ⟨_, _, _, _, _⟩ h
    simp [slots, Slot.found] at h
    obtain ⟨rfl, rfl, rfl, hoptimistic, hoffline⟩ := h
    rcases hoptimistic with rfl | ⟨rfl, rfl⟩ <;> rcases hoffline with rfl | ⟨rfl, rfl⟩ <;> rfl
  missing := by
    rintro ⟨headSlot, syncDistance, isSyncing, _, _⟩
    cases headSlot <;> cases syncDistance <;> cases isSyncing <;>
      simp [slots, Slot.found, record, Draft.finish]

theorem form_readBy : form.ReadBy reader fun _ => True := implements.readBy

def envelopeSlots : List (Slot (Option SyncStatus) SyncStatus) := [
  { name := "data", part := id, form, get := id, set := fun v _ => some v, reader }]

theorem envelope_implements : Implements envelopeSlots envelope where
  fields := rfl
  initial := by simp [envelopeSlots, envelope]
  lawful := by
    simp only [envelopeSlots, List.forall_mem_singleton]
    exact ⟨fun _ _ => rfl, form_readBy.mono fun _ _ => trivial⟩
  apart := List.pairwise_singleton _ _
  complete := by
    rintro s a h
    simp [envelopeSlots, Slot.found] at h
    simp [envelope, h]
  missing := by
    rintro s
    cases s <;> simp [envelopeSlots, Slot.found, envelope]

theorem responseForm_readBy : responseForm.ReadBy responseReader fun _ => True :=
  envelope_implements.readBy

theorem spells_json (s : SyncStatus) : form.spells s (Utf8.encode s.json) := by
  refine Json.spells_object (by simp) ?_
  refine .cons ⟨rfl, Json.spells_quotedNumber s.headSlot⟩ ?_
  refine .cons ⟨rfl, Json.spells_quotedNumber s.syncDistance⟩ ?_
  refine .cons ⟨rfl, rfl⟩ ?_
  refine .cons ⟨rfl, rfl⟩ ?_
  exact .cons ⟨rfl, rfl⟩ .nil

theorem spells_responseJson (s : SyncStatus) :
    responseForm.spells s (Utf8.encode (responseJson s)) :=
  Json.spells_object (by simp) (.cons ⟨rfl, s.spells_json⟩ .nil)

end SyncStatus

/-! ## The settings of the client -/

namespace BeaconConfig

def form : Form BeaconConfig := .object [
  { name := "endpoint", part := endpoint, form := .string },
  { name := "request_timeout_secs", part := requestTimeoutSecs, form := .number }]

def slots : List (Slot Draft BeaconConfig) := [
  { name := "endpoint", part := BeaconConfig.endpoint, form := .string,
    get := Draft.endpoint, set := fun v d => { d with endpoint := some v },
    reader := Reader.string },
  { name := "request_timeout_secs", part := BeaconConfig.requestTimeoutSecs, form := .number,
    get := Draft.requestTimeoutSecs, set := fun v d => { d with requestTimeoutSecs := some v },
    reader := Reader.uint64 }]

theorem implements : Implements slots record where
  fields := rfl
  initial := by simp [slots, record]
  lawful := by
    simp only [slots, List.forall_mem_cons]
    refine ⟨?_, ?_, List.forall_mem_nil _⟩
    · exact ⟨fun _ _ => rfl, Json.string_readBy⟩
    · exact ⟨fun _ _ => rfl, Json.number_readBy⟩
  apart := by
    simp [slots, Slot.Apart]
  complete := by
    rintro ⟨_, _⟩ ⟨_, _⟩ h
    simp [slots, Slot.found] at h
    obtain ⟨rfl, rfl⟩ := h
    rfl
  missing := by
    rintro ⟨endpoint, requestTimeoutSecs⟩
    cases endpoint <;> cases requestTimeoutSecs <;>
      simp [slots, Slot.found, record, Draft.finish]

theorem form_readBy : form.ReadBy reader fun _ => True := implements.readBy

theorem spells_json (c : BeaconConfig) : form.spells c (Utf8.encode c.json) := by
  refine Json.spells_object (by simp) ?_
  refine .cons ⟨rfl, Json.stringText_quoted c.endpoint⟩ ?_
  exact .cons ⟨rfl, rfl⟩ .nil

end BeaconConfig

end BuilderRelay
