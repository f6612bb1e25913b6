import BuilderRelay.Proofs.Relay.BatchOutcome
import BuilderRelay.Proofs.Text.PercentDecoding

/-!
# Header requests

A path with three parts below the header route asks for a header if the parts stand for texts and
the first text is a 64-bit number. The path is split before its parts are decoded, so an escaped
slash belongs to a part. A request for a header waits and is then answered with no content; any
other request with such a path is refused at once.
-/

namespace BuilderRelay

/-! ## Paths and their parts -/

namespace Http

theorem splitPath_of_notMem {part : List Char} (h : '/' ∉ part) : splitPath part = [part] := by
  induction part with
  | nil => rfl
  | cons c part ih =>
      have hc := (List.ne_of_not_mem_cons h).symm
      simp only [splitPath, if_neg hc, ih (List.not_mem_of_not_mem_cons h)]

theorem splitPath_part {part : List Char} (h : '/' ∉ part) (rest : List Char) :
    splitPath (part ++ '/' :: rest) = part :: splitPath rest := by
  induction part with
  | nil => rfl
  | cons c part ih =>
      have hc := (List.ne_of_not_mem_cons h).symm
      simp only [List.cons_append, splitPath, if_neg hc, ih (List.not_mem_of_not_mem_cons h)]

end Http

/-- The header route with three parts behind it, none of which is empty. -/
structure HeaderPath.Below (p : HeaderPath) (path : List Char) : Prop where
  text : path = "/eth/v1/builder/header/".toList ++
    (p.slot ++ '/' :: (p.parentHash ++ '/' :: p.publicKey))
  nonempty : p.slot ≠ [] ∧ p.parentHash ≠ [] ∧ p.publicKey ≠ []
  parts : '/' ∉ p.slot ∧ '/' ∉ p.parentHash ∧ '/' ∉ p.publicKey

namespace Route

theorem splitPath_headerStart (rest : List Char) :
    Http.splitPath ("/eth/v1/builder/header/".toList ++ rest) =
      headerStart ++ Http.splitPath rest := by
  have htext : "/eth/v1/builder/header/".toList ++ rest =
      [] ++ '/' :: ("eth".toList ++ '/' :: ("v1".toList ++ '/' :: ("builder".toList ++
        '/' :: ("header".toList ++ '/' :: rest)))) := rfl
  rw [htext, Http.splitPath_part (by decide), Http.splitPath_part (by decide),
    Http.splitPath_part (by decide), Http.splitPath_part (by decide),
    Http.splitPath_part (by decide)]
  rfl

theorem headerPath_of_below {p : HeaderPath} {path : List Char} (h : p.Below path) :
    headerPath path = some p := by
  obtain ⟨hslot, hparentHash, hpublicKey⟩ := h.parts
  have hsplit : Http.splitPath path =
      headerStart ++ [p.slot, p.parentHash, p.publicKey] := by
    rw [h.text, splitPath_headerStart, Http.splitPath_part hslot, Http.splitPath_part hparentHash,
      Http.splitPath_of_notMem hpublicKey]
  simp only [headerPath, hsplit, headerStart, List.cons_append, List.nil_append]
  exact if_pos ⟨trivial, h.nonempty.2.2⟩

/-- The other routes have no parts, so none of them is in the way. -/
theorem ofPath_of_headerPath {p : HeaderPath} {path : List Char} (h : headerPath path = some p)
    (withMetrics : Bool) : ofPath withMetrics path = some (.getHeader p) := by
  have hother {other : List Char} (hnone : headerPath other = none) : path ≠ other := by
    rintro rfl
    rw [hnone] at h
    cases h
  rw [ofPath, if_neg (hother (by decide)), if_neg (hother (by decide)),
    if_neg fun hmetrics => hother (by decide) hmetrics.2, h, Option.map_some]

end Route

namespace Relay

open Metrics (RecordsOne)

/-! ## What is asked for -/

/-- The part of a path stands for the text, whose bytes are those of the part with percent signs
resolved. -/
def PartDenotes (part : List Char) (text : String) : Prop :=
  Percent.Decodes (Utf8.encode (.ofList part)) (Utf8.encode text)

/-- The parts stand for texts, the first of which is a number. -/
structure Asks (p : HeaderPath) (request : HeaderRequest) : Prop where
  slot : ∃ text, PartDenotes p.slot text ∧ Text.IsNumeral text request.slot.toNat
  parentHash : PartDenotes p.parentHash request.parentHash
  publicKey : PartDenotes p.publicKey request.publicKey

theorem decodePart_eq_some_iff {part : List Char} {text : String} :
    decodePart part = some text ↔ PartDenotes part text := by
  rw [PartDenotes, Percent.decodes_iff, decodePart]
  constructor
  · exact Utf8.eq_encode_of_decode
  · intro h
    rw [h, Utf8.decode_encode]

theorem readHeaderPath_eq_ok_iff {p : HeaderPath} {request : HeaderRequest} :
    readHeaderPath p = .ok request ↔ Asks p request := by
  constructor
  · intro h
    unfold readHeaderPath at h
    split at h
    · cases h
    · cases h
    · cases h
    · rename_i hslot hparentHash hpublicKey
      split at h
      · cases h
      · rename_i hnumber
        cases h
        exact ⟨⟨_, decodePart_eq_some_iff.mp hslot, Text.readUInt64_eq_ok_iff.mp hnumber⟩,
          decodePart_eq_some_iff.mp hparentHash, decodePart_eq_some_iff.mp hpublicKey⟩
  · rintro ⟨⟨text, hslot, hnumber⟩, hparentHash, hpublicKey⟩
    simp only [readHeaderPath, decodePart_eq_some_iff.mpr hslot,
      decodePart_eq_some_iff.mpr hparentHash, decodePart_eq_some_iff.mpr hpublicKey,
      Text.readUInt64_eq_ok_iff.mpr hnumber]

/-! ## What is answered -/

variable {bls : Bls.Scheme} {relay : Relay} {r : Http.Request} {s : RelayState} {p : HeaderPath}

theorem dispatch_of_below (hpath : p.Below (Http.targetPath r.target.toList))
    (htakes : (Route.getHeader p).takes r.method) :
    dispatch bls relay r s = serve bls relay (.getHeader p) r s := by
  have hroute := Route.ofPath_of_headerPath (Route.headerPath_of_below hpath) relay.pprof
  simp only [dispatch, hroute, if_pos htakes]

theorem answer_of_below (hmethod : r.method = "GET")
    (hpath : p.Below (Http.targetPath r.target.toList)) :
    answer bls relay r s = serve bls relay (.getHeader p) r s := by
  have htakes : (Route.getHeader p).takes r.method := by
    rw [hmethod]
    rfl
  have hhead : ¬ r.method = "HEAD" := by
    rw [hmethod]
    decide
  simp only [answer, dispatch_of_below hpath htakes, if_neg hhead]

theorem answer_head_of_below (hpath : p.Below (Http.targetPath r.target.toList)) :
    answer bls relay { r with method := "HEAD" } s =
      let served := serve bls relay (.getHeader p) r s
      (served.1, { served.2 with response := served.2.response.withoutContent }) := by
  have htakes : (Route.getHeader p).takes "HEAD" := rfl
  have hdispatch := @dispatch_of_below bls relay { r with method := "HEAD" } s p hpath htakes
  simp only [answer, hdispatch, if_true]
  rfl

theorem recordsOne_handleHeader (relay : Relay) (h : s.metrics.Ordered) (request : HeaderRequest) :
    RecordsOne .getHeader 204 s.metrics (handleHeader relay request s).1.metrics :=
  Metrics.recordsOne_counted h .getHeader [] 204

/-- Whatever was counted before, a GET request with three parts below the header route that asks for
a header waits once, is answered with no content, and is logged and counted once, with its response.
If it asks for none it is refused without waiting, and nothing is counted. The cache is never
called, and a HEAD request has the same answer without its content. -/
theorem header_request_answered (bls : Bls.Scheme) (relay : Relay) (earlier : List RelayEvent)
    (start : Cache) {r : Http.Request} {p : HeaderPath} (hmethod : r.method = "GET")
    (hpath : p.Below (Http.targetPath r.target.toList)) :
    let before := (relay.run bls earlier ⟨start, .empty⟩).1
    let answered := relay.answer bls r before
    let after := answered.1
    let seen := answered.2
    (∀ request, Asks p request →
      seen.response.status = 204 ∧ seen.response.content = .empty ∧
      seen.waited = relay.getHeaderWait.toNat ∧ seen.calls = [] ∧
      seen.log = [⟨.debug, "No bid available", [("slot", toString request.slot.toNat),
        ("parent_hash", request.parentHash), ("pubkey", request.publicKey)]⟩] ∧
      RecordsOne .getHeader 204 before.metrics after.metrics ∧
      after.metrics.registrations = before.metrics.registrations ∧
      after.cache = before.cache) ∧
    ((¬ ∃ request, Asks p request) →
      seen.response.status = 400 ∧ seen.waited = 0 ∧ seen.calls = [] ∧ seen.log = [] ∧
      after = before) ∧
    relay.answer bls { r with method := "HEAD" } before =
      (after, { seen with response := seen.response.withoutContent }) := by
  intro before answered after seen
  have hordered : before.metrics.Ordered :=
    (Tally.empty.run bls (s := ⟨start, .empty⟩) earlier).ordered
  have hanswered : answered = serve bls relay (.getHeader p) r before :=
    answer_of_below hmethod hpath
  refine ⟨fun request hasks => ?_, fun hnone => ?_, ?_⟩
  · have hserve : answered = handleHeader relay request before := by
      rw [hanswered]
      simp only [serve, readHeaderPath_eq_ok_iff.mpr hasks]
    have hcounts := recordsOne_handleHeader relay hordered request
    simp only [seen, after, hserve]
    exact ⟨rfl, rfl, rfl, rfl, rfl, hcounts, rfl, rfl⟩
  · cases hread : readHeaderPath p with
    | ok request => exact absurd ⟨request, readHeaderPath_eq_ok_iff.mp hread⟩ hnone
    | error fault =>
        have hserve : answered = refuse (.ofText 400 fault.message) before := by
          rw [hanswered]
          simp only [serve, hread]
        simp only [seen, after, hserve]
        exact ⟨rfl, rfl, rfl, rfl, rfl⟩
  · rw [answer_head_of_below hpath]
    simp only [seen, after, hanswered]

/-- A request whose slot has a plus sign and zeros in front, whose parent hash has a slash in it,
and whose public key is not ASCII. -/
def escapedHeaderRequest : Http.Request where
  method := "GET"
  target := "/eth/v1/builder/header/%2B0042/a%2Fb/%c3%A9?x=/"
  headers := []
  body := []

/-- A relay that waits for the longest time there is. -/
def patientRelay : Relay where
  listenAddr := sepoliaOptions.listenAddr
  beacon := sepoliaOptions.beacon
  builderDomain := Signing.builderDomain sepoliaOptions.network.forkVersion
  pprof := true
  getHeaderWait := 18446744073709551615
  key := sepoliaOptions.key

theorem escaped_header_request_answered :
    let seen := (patientRelay.answer Bls.scheme escapedHeaderRequest ⟨.empty, .empty⟩).2
    seen.response.status = 204 ∧ seen.waited = 18446744073709551615 ∧
      seen.log = [⟨.debug, "No bid available",
        [("slot", "42"), ("parent_hash", "a/b"), ("pubkey", "é")]⟩] := by
  intro seen
  let p : HeaderPath := ⟨"%2B0042".toList, "a%2Fb".toList, "%c3%A9".toList⟩
  have hpath : p.Below (Http.targetPath escapedHeaderRequest.target.toList) :=
    ⟨by decide +kernel, by decide +kernel, by decide +kernel⟩
  have hanswered := header_request_answered Bls.scheme patientRelay [] .empty rfl hpath
  have hasks : Asks p ⟨42, "a/b", "é"⟩ := by
    refine ⟨⟨"+0042", Percent.decodes_iff.mpr (by decide +kernel), ?_⟩,
      Percent.decodes_iff.mpr (by decide +kernel), Percent.decodes_iff.mpr (by decide +kernel)⟩
    exact ⟨['0', '0', '4', '2'], .inr rfl, List.cons_ne_nil _ _, by simp, by rfl⟩
  obtain ⟨hstatus, -, hwaited, -, hlog, -⟩ := hanswered.1 _ hasks
  exact ⟨hstatus, hwaited, hlog⟩

end Relay

end BuilderRelay
