import BuilderRelay.Proofs.Text.PrefixedHex
import BuilderRelay.Proofs.Text.Trimming
import BuilderRelay.Startup.Stages
import Mathlib.Data.List.Induction
import Mathlib.Data.Nat.Digits.Defs

/-!
# Key texts

What the key stage makes of a text. A text that does not denote bytes is malformed; bytes that are
not 32, or whose big-endian value is no nonzero scalar below the group order, make an invalid key;
all others load as the key of that scalar. White space around the text and the case of its letters
make no difference.
-/

namespace BuilderRelay.Startup

open Hex (Prefixed Denotes)

def bigEndianValue (bytes : Bytes) : Nat := Nat.ofDigits 256 (bytes.reverse.map UInt8.toNat)

/-- The text denotes the bytes, but for white space around it. -/
def HasBytes (text : String) (bytes : Bytes) : Prop :=
  ∃ core, Text.Trims text core ∧ Denotes core bytes

/-- The texts are the same but for white space around them and the case of letters. -/
def SameLetters (s t : String) : Prop :=
  ∃ core core', Text.Trims s core ∧ Text.Trims t core' ∧
    Text.asciiLower core = Text.asciiLower core'

theorem toNat_eq_bigEndianValue (bytes : Bytes) : Bytes.toNat bytes = bigEndianValue bytes := by
  induction bytes using List.reverseRecOn with
  | nil => rfl
  | append_singleton bytes b ih =>
      have hlast : Bytes.toNat (bytes ++ [b]) = Bytes.toNat bytes * 256 + b.toNat := by
        rw [Bytes.toNat, List.foldl_append]
        rfl
      rw [hlast, ih, bigEndianValue, bigEndianValue, List.reverse_append, List.reverse_singleton,
        List.singleton_append, List.map_cons, Nat.ofDigits_cons, Nat.add_comm, Nat.mul_comm]

theorem hasBytes_iff_trim {text : String} {bytes : Bytes} :
    HasBytes text bytes ↔ Denotes (Text.trim text) bytes := by
  constructor
  · rintro ⟨core, hcore, hdenotes⟩
    rwa [Text.trims_iff.mp hcore] at hdenotes
  · exact fun hdenotes => ⟨_, Text.trims_iff.mpr rfl, hdenotes⟩

theorem exists_hasBytes_iff {text : String} :
    (∃ bytes, HasBytes text bytes) ↔ ∃ core ds, Text.Trims text core ∧ Prefixed core ds := by
  constructor
  · rintro ⟨bytes, core, hcore, hdenotes⟩
    obtain ⟨ds, hds⟩ := Hex.exists_denotes_iff.mp ⟨bytes, hdenotes⟩
    exact ⟨core, ds, hcore, hds⟩
  · rintro ⟨core, ds, hcore, hds⟩
    obtain ⟨bytes, hdenotes⟩ := Hex.exists_denotes_iff.mpr ⟨ds, hds⟩
    exact ⟨bytes, core, hcore, hdenotes⟩

theorem HasBytes.unique {text : String} {bytes bytes' : Bytes} (h : HasBytes text bytes)
    (h' : HasBytes text bytes') : bytes = bytes' :=
  (hasBytes_iff_trim.mp h).unique (hasBytes_iff_trim.mp h')

/-- The bytes of a text do not depend on what `SameLetters` leaves open. -/
theorem SameLetters.hasBytes_iff {s t : String} (h : SameLetters s t) (bytes : Bytes) :
    HasBytes s bytes ↔ HasBytes t bytes := by
  obtain ⟨core, core', hs, ht, hletters⟩ := h
  rw [hasBytes_iff_trim, hasBytes_iff_trim, ← Text.trims_iff.mp hs, ← Text.trims_iff.mp ht,
    Hex.denotes_iff_asciiLower, Hex.denotes_iff_asciiLower, hletters]

theorem decodeKeyText_eq_ok_iff {text : String} {bytes : Bytes} :
    Signing.decodeKeyText text = .ok bytes ↔ HasBytes text bytes := by
  rw [hasBytes_iff_trim, Signing.decodeKeyText, Hex.decodePrefixed_eq_ok_iff]

/-! ## Reading a key -/

structure IsScalar (bytes : Bytes) : Prop where
  length : bytes.length = 32
  pos : 0 < bigEndianValue bytes
  lt : bigEndianValue bytes < Bls.groupOrder

theorem secretKeyOfBytes_of_isScalar {bytes : Bytes} (h : IsScalar bytes) :
    Signing.secretKeyOfBytes bytes = .ok ⟨bigEndianValue bytes, h.pos, h.lt⟩ := by
  have hrange : 0 < bigEndianValue bytes ∧ bigEndianValue bytes < Bls.groupOrder := ⟨h.pos, h.lt⟩
  simp only [Signing.secretKeyOfBytes, Signing.secretKeyLength, h.length, if_true,
    toNat_eq_bigEndianValue, dif_pos hrange]

theorem secretKeyOfBytes_of_length {bytes : Bytes} (h : bytes.length ≠ 32) :
    Signing.secretKeyOfBytes bytes = .error (.length bytes.length) := if_neg h

theorem secretKeyOfBytes_of_range {bytes : Bytes} (hlength : bytes.length = 32)
    (h : bigEndianValue bytes = 0 ∨ Bls.groupOrder ≤ bigEndianValue bytes) :
    Signing.secretKeyOfBytes bytes = .error .badScalar := by
  have hrange : ¬ (0 < bigEndianValue bytes ∧ bigEndianValue bytes < Bls.groupOrder) := by omega
  simp only [Signing.secretKeyOfBytes, Signing.secretKeyLength, hlength, if_true,
    toNat_eq_bigEndianValue, dif_neg hrange]

theorem not_isScalar_iff {bytes : Bytes} :
    ¬ IsScalar bytes ↔ bytes.length ≠ 32 ∨ bigEndianValue bytes = 0 ∨
      Bls.groupOrder ≤ bigEndianValue bytes := by
  constructor
  · intro h
    by_contra! hscalar
    exact h ⟨hscalar.1, Nat.pos_of_ne_zero hscalar.2.1, hscalar.2.2⟩
  · rintro (hlength | hzero | hlarge) ⟨hlength', hpos, hlt⟩
    · exact hlength hlength'
    · exact absurd hpos (Nat.not_lt.mpr (Nat.le_of_eq hzero))
    · exact Nat.not_lt.mpr hlarge hlt

theorem secretKeyOfBytes_of_not_isScalar {bytes : Bytes} (h : ¬ IsScalar bytes) :
    ∃ fault, Signing.secretKeyOfBytes bytes = .error fault := by
  by_cases hlength : bytes.length = 32
  · have hrange := (not_isScalar_iff.mp h).resolve_left (not_not.mpr hlength)
    exact ⟨_, secretKeyOfBytes_of_range hlength hrange⟩
  · exact ⟨_, secretKeyOfBytes_of_length hlength⟩

/-- A text is malformed, has bytes that are no scalar, or has bytes that are one. -/
theorem readKey_cases (text : String) :
    ((∃ reason, readKey text = .error (.malformedSecretKey reason)) ∧
      ∀ bytes, ¬ HasBytes text bytes) ∨
    (∃ bytes reason, readKey text = .error (.invalidSecretKey reason) ∧ HasBytes text bytes ∧
      ¬ IsScalar bytes) ∨
    ∃ bytes, ∃ h : IsScalar bytes, readKey text = .ok ⟨bigEndianValue bytes, h.pos, h.lt⟩ ∧
      HasBytes text bytes := by
  cases hdecode : Signing.decodeKeyText text with
  | error fault =>
      refine .inl ⟨⟨.plain fault.message, by simp only [readKey, hdecode]⟩, ?_⟩
      intro bytes hbytes
      rw [decodeKeyText_eq_ok_iff.mpr hbytes] at hdecode
      cases hdecode
  | ok bytes =>
      have hbytes := decodeKeyText_eq_ok_iff.mp hdecode
      right
      by_cases hscalar : IsScalar bytes
      · right
        refine ⟨bytes, hscalar, ?_, hbytes⟩
        simp only [readKey, hdecode, secretKeyOfBytes_of_isScalar hscalar, Except.mapError]
      · left
        obtain ⟨fault, hfault⟩ := secretKeyOfBytes_of_not_isScalar hscalar
        refine ⟨bytes, .plain fault.message, ?_, hbytes, hscalar⟩
        simp only [readKey, hdecode, hfault, Except.mapError]

/-- What is made of a text depends on its bytes alone, but for the reason why it is refused. -/
theorem readKey_congr {s t : String} (h : ∀ bytes, HasBytes s bytes ↔ HasBytes t bytes) :
    (readKey s).mapError StartupError.name = (readKey t).mapError StartupError.name := by
  cases hs : Signing.decodeKeyText s with
  | error fault =>
      cases ht : Signing.decodeKeyText t with
      | error fault' =>
          simp only [readKey, hs, ht, Except.mapError]
          rfl
      | ok bytes =>
          have hbytes := (h bytes).mpr (decodeKeyText_eq_ok_iff.mp ht)
          rw [decodeKeyText_eq_ok_iff.mpr hbytes] at hs
          cases hs
  | ok bytes =>
      have ht := decodeKeyText_eq_ok_iff.mpr ((h bytes).mp (decodeKeyText_eq_ok_iff.mp hs))
      simp only [readKey, hs, ht]

theorem readKey_malformed_iff {text : String} :
    (∃ reason, readKey text = .error (.malformedSecretKey reason)) ↔
      ¬ ∃ bytes, HasBytes text bytes := by
  rw [not_exists]
  rcases readKey_cases text with ⟨hread, hnone⟩ | ⟨bytes, _, hread, hbytes, -⟩ |
    ⟨bytes, hscalar, hread, hbytes⟩
  · exact ⟨fun _ => hnone, fun _ => hread⟩
  all_goals
    rw [hread]
    constructor
    · rintro ⟨_, hreason⟩
      cases hreason
    · exact fun hnone => absurd hbytes (hnone bytes)

theorem readKey_invalid_iff {text : String} :
    (∃ reason, readKey text = .error (.invalidSecretKey reason)) ↔
      ∃ bytes, HasBytes text bytes ∧ ¬ IsScalar bytes := by
  rcases readKey_cases text with ⟨⟨_, hread⟩, hnone⟩ | ⟨bytes, reason, hread, hbytes, hnot⟩ |
    ⟨bytes, hscalar, hread, hbytes⟩
  · rw [hread]
    constructor
    · rintro ⟨_, hreason⟩
      cases hreason
    · rintro ⟨bytes, hbytes, -⟩
      exact absurd hbytes (hnone bytes)
  · exact ⟨fun _ => ⟨bytes, hbytes, hnot⟩, fun _ => ⟨reason, hread⟩⟩
  · rw [hread]
    constructor
    · rintro ⟨_, hreason⟩
      cases hreason
    · rintro ⟨bytes', hbytes', hnot⟩
      exact absurd (hbytes.unique hbytes' ▸ hscalar) hnot

theorem readKey_of_isScalar {text : String} {bytes : Bytes} (h : HasBytes text bytes)
    (hscalar : IsScalar bytes) :
    readKey text = .ok ⟨bigEndianValue bytes, hscalar.pos, hscalar.lt⟩ := by
  simp only [readKey, decodeKeyText_eq_ok_iff.mpr h, secretKeyOfBytes_of_isScalar hscalar,
    Except.mapError]

/-! ## The key stage -/

def keyText (c : DatastoreConnected) : String := c.verified.resolved.config.secretKey

theorem result_loadKey (bls : Bls.Scheme) (c : DatastoreConnected) :
    (loadKey bls c).result = (readKey (keyText c)).map (KeyLoaded.mk c) := by
  rw [keyText]
  cases hread : readKey c.verified.resolved.config.secretKey with
  | error e => simp [loadKey, hread, Except.map]
  | ok key => simp [loadKey, hread, Except.map]

theorem result_loadKey_eq_error_iff {bls : Bls.Scheme} {c : DatastoreConnected}
    {e : StartupError} :
    (loadKey bls c).result = .error e ↔ readKey (keyText c) = .error e := by
  rw [result_loadKey]
  cases readKey (keyText c) <;> simp [Except.map]

/-- The key that the stage loads, or the name of the error it ends with. -/
def keyOutcome (bls : Bls.Scheme) (c : DatastoreConnected) : Except String Bls.SecretKey :=
  ((loadKey bls c).result.map KeyLoaded.key).mapError StartupError.name

theorem keyOutcome_eq (bls : Bls.Scheme) (c : DatastoreConnected) :
    keyOutcome bls c = (readKey (keyText c)).mapError StartupError.name := by
  rw [keyOutcome, result_loadKey]
  cases readKey (keyText c) <;> rfl

/-- A key text is malformed, or stands for an invalid key, or loads as the key it stands for; spaces
around it and the case of its letters make no difference. -/
theorem key_text_classified (bls : Bls.Scheme) (c : DatastoreConnected) :
    ((∃ reason, (loadKey bls c).result = .error (.malformedSecretKey reason)) ↔
      ¬ ∃ core ds, Text.Trims (keyText c) core ∧ Prefixed core ds) ∧
    ((∃ reason, (loadKey bls c).result = .error (.invalidSecretKey reason)) ↔
      ∃ bytes, HasBytes (keyText c) bytes ∧ (bytes.length ≠ 32 ∨ bigEndianValue bytes = 0 ∨
        Bls.groupOrder ≤ bigEndianValue bytes)) ∧
    (∀ bytes, HasBytes (keyText c) bytes → bytes.length = 32 → 0 < bigEndianValue bytes →
      bigEndianValue bytes < Bls.groupOrder →
      ∃ loaded, (loadKey bls c).result = .ok loaded ∧ loaded.connected = c ∧
        loaded.key.scalar = bigEndianValue bytes) ∧
    ∀ c', SameLetters (keyText c) (keyText c') → keyOutcome bls c = keyOutcome bls c' := by
  refine ⟨?_, ?_, ?_, ?_⟩
  · simp only [result_loadKey_eq_error_iff, readKey_malformed_iff, exists_hasBytes_iff]
  · simp only [result_loadKey_eq_error_iff, readKey_invalid_iff, not_isScalar_iff]
  · intro bytes hbytes hlength hpos hlt
    have hscalar : IsScalar bytes := ⟨hlength, hpos, hlt⟩
    refine ⟨⟨c, ⟨bigEndianValue bytes, hpos, hlt⟩⟩, ?_, rfl, rfl⟩
    rw [result_loadKey, readKey_of_isScalar hbytes hscalar]
    rfl
  · intro c' hsame
    rw [keyOutcome_eq, keyOutcome_eq, readKey_congr hsame.hasBytes_iff]

def connectedWith (text : String) : DatastoreConnected where
  verified := {
    resolved := {
      config := {
        listenAddr := "127.0.0.1:18550"
        beaconUri := "http://localhost:5052"
        redisUri := "localhost:6379"
        logJson := false
        logLevel := .info
        pprof := false
        getHeaderWait := 950
        secretKey := text
        network := ⟨none, false, false, false, true⟩ }
      network := .sepolia }
    beacon := ⟨⟨"http://localhost:5052", beaconTimeout⟩⟩ }
  cache := .empty

/-- The greatest key there is, with letters of both cases and spaces of two kinds around it. -/
def greatestKeyText : String :=
  "\u00a0\n0X73EDA753299D7D483339d80809a1d80553BDA402FFFE5BFEFFFFFFFF00000000\t"

def greatestKeyBytes : Bytes := (ByteVector.bigEndian 32 (Bls.groupOrder - 1)).toList

theorem greatest_key_loads :
    HasBytes greatestKeyText greatestKeyBytes ∧ greatestKeyBytes.length = 32 ∧
    0 < bigEndianValue greatestKeyBytes ∧ bigEndianValue greatestKeyBytes < Bls.groupOrder ∧
    (∃ loaded, (loadKey Bls.scheme (connectedWith greatestKeyText)).result = .ok loaded ∧
      loaded.connected = connectedWith greatestKeyText ∧
      loaded.key.scalar = bigEndianValue greatestKeyBytes) ∧
    SameLetters greatestKeyText (Hex.encodePrefixed greatestKeyBytes) ∧
    keyOutcome Bls.scheme (connectedWith greatestKeyText) =
      keyOutcome Bls.scheme (connectedWith (Hex.encodePrefixed greatestKeyBytes)) := by
  obtain ⟨-, -, hloads, hcase⟩ := key_text_classified Bls.scheme (connectedWith greatestKeyText)
  have hbytes : HasBytes greatestKeyText greatestKeyBytes := by
    rw [hasBytes_iff_trim, Hex.denotes_iff_asciiLower]
    decide +kernel
  have hlength : greatestKeyBytes.length = 32 := by decide +kernel
  have hrange : 0 < bigEndianValue greatestKeyBytes ∧
      bigEndianValue greatestKeyBytes < Bls.groupOrder := by
    rw [← toNat_eq_bigEndianValue]
    decide +kernel
  have hsame : SameLetters greatestKeyText (Hex.encodePrefixed greatestKeyBytes) := by
    have hplain : Text.Trims (Hex.encodePrefixed greatestKeyBytes)
        (Hex.encodePrefixed greatestKeyBytes) := Text.trims_iff.mpr (by decide +kernel)
    refine ⟨_, _, Text.trims_iff.mpr rfl, hplain, ?_⟩
    rw [Hex.asciiLower_encodePrefixed]
    exact (Hex.denotes_iff_asciiLower.mp (hasBytes_iff_trim.mp hbytes)).2
  exact ⟨hbytes, hlength, hrange.1, hrange.2, hloads _ hbytes hlength hrange.1 hrange.2, hsame,
    hcase _ hsame⟩

end BuilderRelay.Startup
