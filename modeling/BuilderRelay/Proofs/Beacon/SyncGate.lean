import BuilderRelay.Beacon.Client
import BuilderRelay.Proofs.Json.AnyLayout
import BuilderRelay.Proofs.Json.Reading

/-!
# The gate

A client that is asked again and again sends one request each time, always to the same address, and
keeps nothing: what it answers is decided by what that one request came to. It lets through a node
whose whole answer says, with status 200, that it does not sync, and nothing else.
-/

namespace BuilderRelay.BeaconClient

variable {url : String}

/-! ## One answer -/

theorem readStatus_eq_ok_iff {outcome : HttpOutcome} {s : SyncStatus} :
    readStatus url outcome = .ok s ↔ ∃ body, outcome = .ok ⟨200, body⟩ ∧
      Json.decode SyncStatus.responseReader body = .ok s ∧ s.isSyncing = false := by
  constructor
  · intro h
    unfold readStatus at h
    split at h
    · cases h
    · rename_i response
      split at h
      · cases h
      · rename_i hstatus
        split at h
        · cases h
        · rename_i read hdecode
          split at h
          · cases h
          · rename_i hsynced
            obtain rfl := Except.ok.inj h
            have hresponse : response = ⟨200, response.body⟩ := by
              rw [← Decidable.not_not.mp hstatus]
            exact ⟨response.body, congrArg Except.ok hresponse, hdecode,
              Bool.eq_false_iff.mpr hsynced⟩
  · rintro ⟨body, rfl, hdecode, hsynced⟩
    simp only [readStatus, ne_eq, not_true_eq_false, if_false, hdecode, hsynced,
      Bool.false_eq_true]

/-- An answer with another status is refused for it, whatever its body says. -/
theorem readStatus_of_status_ne {status : Nat} (h : status ≠ 200) (body : Bytes) :
    readStatus url (.ok ⟨status, body⟩) = .error (.refused status body) := by
  simp only [readStatus, ne_eq, h, not_false_eq_true, if_true]

theorem report_refused (status : Nat) {body : Bytes} {found : Option String}
    (h : Utf8.decode body = found) :
    let text := found.getD "Unknown error"
    (SyncFault.refused status body).report =
      .plain s!"Beacon API request failed with status {status}: {text}" := by
  subst h
  rfl

/-! ## The texts of an answer -/

theorem responses_inAnyLayout : Json.ReadInAnyLayout SyncStatus.responseForm
    SyncStatus.responseReader SyncStatus.responseJson :=
  SyncStatus.responseForm_readBy.inAnyLayout SyncStatus.spells_responseJson

theorem readStatus_of_decode {body : Bytes} {s : SyncStatus}
    (h : Json.decode SyncStatus.responseReader body = .ok s) :
    readStatus url (.ok ⟨200, body⟩) = if s.isSyncing then .error (.syncing s) else .ok s := by
  simp only [readStatus, ne_eq, not_true_eq_false, if_false, h]

theorem readStatus_of_decode_error {body : Bytes} {fault : Json.Fault}
    (h : Json.decode SyncStatus.responseReader body = .error fault) :
    readStatus url (.ok ⟨200, body⟩) = .error (.unreadable url body fault) := by
  simp only [readStatus, ne_eq, not_true_eq_false, if_false, h]

/-! ## One question after the other -/

/-- What a network makes of a request, by its address and by how many were sent before. -/
abbrev Network := Nat → String → HttpOutcome

/-- Asks `n` times, after `sent` requests. -/
def askInTurn (network : Network) (c : BeaconClient) :
    (sent n : Nat) → List (Attempt SyncFault SyncStatus)
  | _, 0 => []
  | sent, n + 1 =>
      let asked := c.syncStatus (network sent)
      asked :: askInTurn network c (sent + asked.calls.length) n

/-- Asking once, if the request comes to `outcome`. -/
def asked (c : BeaconClient) (outcome : HttpOutcome) : Attempt SyncFault SyncStatus where
  calls := [.get c.syncingUrl]
  log := [⟨.debug, "Making beacon API request", [("url", c.syncingUrl)]⟩]
  result := readStatus c.syncingUrl outcome

theorem syncStatus_eq (get : String → HttpOutcome) (c : BeaconClient) :
    c.syncStatus get = c.asked (get c.syncingUrl) := rfl

theorem askInTurn_eq (network : Network) (c : BeaconClient) (sent n : Nat) :
    askInTurn network c sent n =
      (List.range' sent n).map fun i => c.asked (network i c.syncingUrl) := by
  induction n generalizing sent with
  | zero => rfl
  | succ n ih =>
      rw [askInTurn, ih, syncStatus_eq]
      rfl

/-- However often a node is asked, each time one request is sent, to the same address, and what it
comes to decides the result: a synced status if and only if the request came to an answer with
status 200 whose body is that status from its beginning to its end. An answer with another status is
reported with it and with its text, if it has one. Of an answer with status 200 the layout does not
matter, but nothing may follow it, and no member of it may be missing or there twice. -/
theorem sync_gate (network : Network) (c : BeaconClient) (n : Nat) :
    let url := if c.endpoint.toList.getLast? = some '/' then c.endpoint ++ "eth/v1/node/syncing"
      else c.endpoint ++ "/" ++ "eth/v1/node/syncing"
    (askInTurn network c 0 n).map (·.calls) = List.replicate n [.get url] ∧
    (askInTurn network c 0 n).map (·.result) =
      (List.range n).map (fun i => readStatus url (network i url)) ∧
    (∀ outcome s, readStatus url outcome = .ok s ↔ ∃ body, outcome = .ok ⟨200, body⟩ ∧
      (∃ read, SyncStatus.responseReader (.start body) = .ok (s, read) ∧
        ∀ b ∈ read.rest, Json.isBlank b) ∧ s.isSyncing = false) ∧
    (∀ status body text, status ≠ 200 →
      (body = Utf8.encode text ∨ text = "Unknown error" ∧ ∀ other, body ≠ Utf8.encode other) →
      ∃ fault, readStatus url (.ok ⟨status, body⟩) = .error fault ∧
        fault.report = .plain s!"Beacon API request failed with status {status}: {text}") ∧
    (∀ s t space, SyncStatus.responseForm.spells s t → Json.IsSpace space →
      (∀ behind, Json.IsSpace behind → readStatus url (.ok ⟨200, space ++ (t ++ behind)⟩) =
        if s.isSyncing then .error (.syncing s) else .ok s) ∧
      ∀ more, (∃ b ∈ more, Json.isBlank b = false) → ∃ fault,
        readStatus url (.ok ⟨200, space ++ (t ++ more)⟩) =
          .error (.unreadable url (space ++ (t ++ more)) fault)) ∧
    ∀ t space rest, SyncStatus.responseForm.faulty t → Json.IsSpace space → ∃ fault,
      readStatus url (.ok ⟨200, space ++ (t ++ rest)⟩) =
        .error (.unreadable url (space ++ (t ++ rest)) fault) := by
  intro url
  refine ⟨?_, ?_, fun outcome s => ?_,
    fun status body text h htext => ⟨_, readStatus_of_status_ne h body, ?_⟩,
    fun s t space hspells hspace => ⟨fun behind hbehind => ?_, fun more hmore => ?_⟩,
    fun t space rest hfaulty hspace => ?_⟩
  · rw [askInTurn_eq, List.map_map]
    rw [show (·.calls) ∘ (fun i => c.asked (network i c.syncingUrl)) = fun _ => [.get url] from rfl,
      List.map_const', List.length_range']
  · rw [askInTurn_eq, List.map_map, List.range_eq_range']
    rfl
  · rw [readStatus_eq_ok_iff]
    simp only [Json.decode_eq_ok_iff]
  · rcases htext with rfl | ⟨rfl, hnone⟩
    · exact report_refused status (Utf8.decode_encode text)
    · exact report_refused status (Utf8.decode_eq_none hnone)
  · exact readStatus_of_decode (responses_inAnyLayout.reads s t space behind hspells hspace hbehind)
  · obtain ⟨fault, hdecode, -⟩ :=
      responses_inAnyLayout.refuses_more s t space more hspells hspace hmore
    exact ⟨fault, readStatus_of_decode_error hdecode⟩
  · obtain ⟨fault, hdecode⟩ := responses_inAnyLayout.refuses_faulty t space rest hfaulty hspace
    exact ⟨fault, readStatus_of_decode_error hdecode⟩

end BuilderRelay.BeaconClient
