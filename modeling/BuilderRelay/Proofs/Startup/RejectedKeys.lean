import BuilderRelay.Proofs.Program.FailureReport
import BuilderRelay.Proofs.Startup.KeySecrecy
import BuilderRelay.Proofs.Startup.KeyTexts

/-!
# Rejected keys

What is shown of a key text that is rejected. The error tells the check that the text fails, and
besides that at most one thing: the first character that is no digit, or the number of bytes. Two
startups whose key texts agree in this cannot be told apart.
-/

namespace BuilderRelay.Startup

open Program (Reports failureEvent runConfigured startAndServe)

inductive KeyCheck where
  | content
  | mark
  | digits
  | characters
  | pairs
  | length
  | range
  deriving DecidableEq, Repr

/-- What a check tells of the text that it rejects. -/
inductive Detail where
  | nothing
  | character (c : Char)
  | byteCount (n : Nat)
  deriving DecidableEq, Repr

/-- The text is rejected by the check, which tells no more of it than the detail. -/
inductive RejectedBy (text : String) : KeyCheck → Detail → Prop
  | content {core : String} : Text.Trims text core → Hex.Fault.empty.First core →
      RejectedBy text .content .nothing
  | mark {core : String} : Text.Trims text core → Hex.Fault.noPrefix.First core →
      RejectedBy text .mark .nothing
  | digits {core : String} : Text.Trims text core → Hex.Fault.noDigits.First core →
      RejectedBy text .digits .nothing
  | characters {core : String} {c : Char} : Text.Trims text core →
      (Hex.Fault.badCharacter c).First core → RejectedBy text .characters (.character c)
  | pairs {core : String} : Text.Trims text core → Hex.Fault.oddLength.First core →
      RejectedBy text .pairs .nothing
  | length {bytes : Bytes} {n : Nat} : HasBytes text bytes → bytes.length = n → n ≠ 32 →
      RejectedBy text .length (.byteCount n)
  | range {bytes : Bytes} : HasBytes text bytes → bytes.length = 32 →
      (bigEndianValue bytes = 0 ∨ Bls.groupOrder ≤ bigEndianValue bytes) →
      RejectedBy text .range .nothing

/-! ## Errors -/

variable {text s t : String} {bytes : Bytes} {check : KeyCheck} {detail : Detail}

theorem readKey_of_first {core : String} {fault : Hex.Fault} (hcore : Text.Trims text core)
    (h : fault.First core) :
    readKey text = .error (.malformedSecretKey (.plain fault.message)) := by
  rw [Text.trims_iff.mp hcore] at h
  have hdecode : Signing.decodeKeyText text = .error fault := Hex.decodePrefixed_eq_error_iff.mpr h
  simp only [readKey, hdecode]

theorem readKey_of_length (h : HasBytes text bytes) (hlength : bytes.length ≠ 32) :
    readKey text =
      .error (.invalidSecretKey (.plain (Signing.KeyFault.length bytes.length).message)) := by
  simp only [readKey, decodeKeyText_eq_ok_iff.mpr h, secretKeyOfBytes_of_length hlength,
    Except.mapError]

theorem readKey_of_range (h : HasBytes text bytes) (hlength : bytes.length = 32)
    (hrange : bigEndianValue bytes = 0 ∨ Bls.groupOrder ≤ bigEndianValue bytes) :
    readKey text = .error (.invalidSecretKey (.plain Signing.KeyFault.badScalar.message)) := by
  simp only [readKey, decodeKeyText_eq_ok_iff.mpr h, secretKeyOfBytes_of_range hlength hrange,
    Except.mapError]

theorem RejectedBy.same_error (hs : RejectedBy s check detail) (ht : RejectedBy t check detail) :
    ∃ e, readKey s = .error e ∧ readKey t = .error e := by
  cases hs with
  | content hcore h | mark hcore h | digits hcore h | characters hcore h | pairs hcore h =>
      cases ht with
      | _ hcore' h' => exact ⟨_, readKey_of_first hcore h, readKey_of_first hcore' h'⟩
  | length hbytes hn hne =>
      cases ht with
      | length hbytes' hn' _ =>
          subst hn
          refine ⟨_, readKey_of_length hbytes hne, ?_⟩
          rw [← hn'] at hne ⊢
          exact readKey_of_length hbytes' hne
  | range hbytes hlength hrange =>
      cases ht with
      | range hbytes' hlength' hrange' =>
          exact ⟨_, readKey_of_range hbytes hlength hrange,
            readKey_of_range hbytes' hlength' hrange'⟩

theorem exists_rejectedBy {e : StartupError} (h : readKey text = .error e) :
    ∃ check detail, RejectedBy text check detail := by
  cases hdecode : Signing.decodeKeyText text with
  | error fault =>
      have hcore : Text.Trims text (Text.trim text) := Text.trims_iff.mpr rfl
      have hfirst : fault.First (Text.trim text) := Hex.decodePrefixed_eq_error_iff.mp hdecode
      cases fault with
      | empty => exact ⟨_, _, .content hcore hfirst⟩
      | noPrefix => exact ⟨_, _, .mark hcore hfirst⟩
      | noDigits => exact ⟨_, _, .digits hcore hfirst⟩
      | badCharacter c => exact ⟨_, _, .characters hcore hfirst⟩
      | oddLength => exact ⟨_, _, .pairs hcore hfirst⟩
  | ok bytes =>
      have hbytes := decodeKeyText_eq_ok_iff.mp hdecode
      by_cases hscalar : IsScalar bytes
      · rw [readKey_of_isScalar hbytes hscalar] at h
        cases h
      · by_cases hlength : bytes.length = 32
        · rcases not_isScalar_iff.mp hscalar with hne | hrange
          · exact absurd hlength hne
          · exact ⟨_, _, .range hbytes hlength hrange⟩
        · exact ⟨_, _, .length hbytes rfl hlength⟩

/-! ## Startups -/

section

variable {bls : Bls.Scheme} {d : Dependencies} {signal : StopSignal} {c : Config}
  {e : StartupError}

theorem loadKey_of_error {connected : DatastoreConnected}
    (h : readKey (keyText connected) = .error e) :
    loadKey bls connected = ⟨[], [], .error e⟩ := by
  rw [keyText] at h
  simp [loadKey, h]

theorem prepare_congr (h : readKey s = readKey t) :
    prepare bls d (c.withKey s) = prepare bls d (c.withKey t) := by
  have hfinish : finish bls s = finish bls t := by
    funext connected
    simp only [finish, h]
  rw [prepare_withKey, prepare_withKey, hfinish]

theorem runConfigured_congr (h : readKey s = readKey t) :
    runConfigured bls d signal (c.withKey s) = runConfigured bls d signal (c.withKey t) := by
  simp only [runConfigured, startAndServe, prepare_congr h]
  rfl

theorem reports_of_untilKey {connected : DatastoreConnected}
    (huntil : (untilKey d c).result = .ok connected) (h : readKey s = .error e) :
    Reports (runConfigured bls d signal (c.withKey s)) e := by
  refine Program.runConfigured_of_error (Program.startAndServe_of_error ?_)
  rw [prepare_withKey, Attempt.andThen_of_ok huntil]
  simp [finish, h, Attempt.andThen]

end

/-- Every key text that the key stage rejects is rejected by one of the checks. If two texts are
rejected by the same check with the same detail, the key stage ends with the same error for both,
the two startups and the two runs of the program are the same, and if they come to the key stage,
both report that error. -/
theorem rejected_keys_alike (bls : Bls.Scheme) (d : Dependencies) (signal : StopSignal)
    {c₁ c₂ : Config} (hsame : c₁.withKey "" = c₂.withKey "") :
    (∀ connected e, (loadKey bls connected).result = .error e →
      ∃ check detail, RejectedBy (keyText connected) check detail) ∧
    ∀ check detail, RejectedBy c₁.secretKey check detail → RejectedBy c₂.secretKey check detail →
      ∃ e : StartupError,
        (∀ connected, keyText connected = c₁.secretKey ∨ keyText connected = c₂.secretKey →
          loadKey bls connected = ⟨[], [], .error e⟩) ∧
        prepare bls d c₁ = prepare bls d c₂ ∧
        runConfigured bls d signal c₁ = runConfigured bls d signal c₂ ∧
        ∀ connected, (untilKey d c₁).result = .ok connected →
          Reports (runConfigured bls d signal c₁) e ∧
            Reports (runConfigured bls d signal c₂) e := by
  refine ⟨fun connected e h => exists_rejectedBy (result_loadKey_eq_error_iff.mp h), ?_⟩
  intro check detail h₁ h₂
  obtain ⟨c, s, t, rfl, rfl⟩ : ∃ c s t, c₁ = Config.withKey s c ∧ c₂ = Config.withKey t c :=
    ⟨c₁, c₁.secretKey, c₂.secretKey, rfl, Config.eq_withKey hsame⟩
  obtain ⟨e, hs, ht⟩ := RejectedBy.same_error h₁ h₂
  have hread : readKey s = readKey t := hs.trans ht.symm
  have hruns : runConfigured bls d signal (c.withKey s) =
      runConfigured bls d signal (c.withKey t) := runConfigured_congr hread
  refine ⟨e, fun connected hkey => loadKey_of_error ?_, prepare_congr hread, hruns, ?_⟩
  · rcases hkey with hkey | hkey
    · rw [hkey]
      exact hs
    · rw [hkey]
      exact ht
  · intro connected huntil
    have hreports : Reports (runConfigured bls d signal (c.withKey s)) e :=
      reports_of_untilKey (c := c.withKey s) huntil hs
    exact ⟨hreports, hruns ▸ hreports⟩

/-- Two texts of different lengths with the same wrong letter. -/
theorem misspelled_keys_alike :
    let run (text : String) := runConfigured Bls.scheme healthyDependencies .interrupt
      ((sepoliaConfig 1).withKey text)
    run "0x5z" = run " 0Xa0za/" ∧ ∃ e, Reports (run "0x5z") e ∧ Reports (run " 0Xa0za/") e := by
  intro run
  have hsame : ((sepoliaConfig 1).withKey "0x5z").withKey "" =
      ((sepoliaConfig 1).withKey " 0Xa0za/").withKey "" := rfl
  have hfirst : RejectedBy "0x5z" .characters (.character 'z') :=
    .characters (Text.trims_iff.mpr rfl) (Hex.decodePrefixed_eq_error_iff.mp (by decide +kernel))
  have hsecond : RejectedBy " 0Xa0za/" .characters (.character 'z') :=
    .characters (Text.trims_iff.mpr rfl) (Hex.decodePrefixed_eq_error_iff.mp (by decide +kernel))
  obtain ⟨e, -, -, hruns, hreports⟩ :=
    (rejected_keys_alike Bls.scheme healthyDependencies .interrupt hsame).2 _ _ hfirst hsecond
  have hconnects : (untilKey healthyDependencies ((sepoliaConfig 1).withKey "0x5z")).result.toBool =
      true := by decide +kernel
  cases huntil : (untilKey healthyDependencies ((sepoliaConfig 1).withKey "0x5z")).result with
  | error e' =>
      rw [huntil] at hconnects
      cases hconnects
  | ok connected => exact ⟨hruns, e, hreports connected huntil⟩

/-- The check alone does not determine the error: which letter is wrong is told, and how many bytes
there are. -/
theorem rejected_keys_told_apart :
    (∃ e₁ e₂ : StartupError,
      RejectedBy "0x5z" .characters (.character 'z') ∧
      RejectedBy "0x5y" .characters (.character 'y') ∧
      (loadKey Bls.scheme (connectedWith "0x5z")).result = .error e₁ ∧
      (loadKey Bls.scheme (connectedWith "0x5y")).result = .error e₂ ∧
      e₁.message ≠ e₂.message ∧ failureEvent e₁ ≠ failureEvent e₂) ∧
    ∃ e₁ e₂ : StartupError,
      RejectedBy "0x01" .length (.byteCount 1) ∧ RejectedBy "0x0101" .length (.byteCount 2) ∧
      (loadKey Bls.scheme (connectedWith "0x01")).result = .error e₁ ∧
      (loadKey Bls.scheme (connectedWith "0x0101")).result = .error e₂ ∧
      e₁.message ≠ e₂.message ∧ failureEvent e₁ ≠ failureEvent e₂ := by
  constructor
  · have hz : Text.Trims "0x5z" "0x5z" := Text.trims_iff.mpr (by decide +kernel)
    have hy : Text.Trims "0x5y" "0x5y" := Text.trims_iff.mpr (by decide +kernel)
    have hfirst : (Hex.Fault.badCharacter 'z').First "0x5z" :=
      Hex.decodePrefixed_eq_error_iff.mp (by decide +kernel)
    have hsecond : (Hex.Fault.badCharacter 'y').First "0x5y" :=
      Hex.decodePrefixed_eq_error_iff.mp (by decide +kernel)
    exact ⟨_, _, .characters hz hfirst, .characters hy hsecond,
      result_loadKey_eq_error_iff.mpr (readKey_of_first hz hfirst),
      result_loadKey_eq_error_iff.mpr (readKey_of_first hy hsecond), by decide +kernel,
      by decide +kernel⟩
  · have hone : HasBytes "0x01" [1] := decodeKeyText_eq_ok_iff.mp (by rfl)
    have htwo : HasBytes "0x0101" [1, 1] := decodeKeyText_eq_ok_iff.mp (by rfl)
    exact ⟨_, _, .length hone rfl (by decide), .length htwo rfl (by decide),
      result_loadKey_eq_error_iff.mpr (readKey_of_length hone (by decide)),
      result_loadKey_eq_error_iff.mpr (readKey_of_length htwo (by decide)), by decide +kernel,
      by decide +kernel⟩

end BuilderRelay.Startup
