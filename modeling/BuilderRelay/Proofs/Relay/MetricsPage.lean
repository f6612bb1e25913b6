import BuilderRelay.Proofs.Relay.CountedLabels
import BuilderRelay.Proofs.Relay.SampleText
import Mathlib.Data.List.Flatten

/-!
# The metrics page

The page shows what was counted and nothing else. Each family of which something was counted has its
comments once and then the samples of its labels, in order; what a client reads from the samples is
what the four counters hold, each under its own name.
-/

namespace BuilderRelay.Metrics

namespace Family

def fullName (f : Family) : String := familyStart ++ f.name

def helpLine (f : Family) : String := "# HELP " ++ f.fullName ++ " " ++ f.help

def typeLine (f : Family) : String :=
  "# TYPE " ++ f.fullName ++ " " ++ if f.histogram then "histogram" else "counter"

/-- What the samples are called that count the family's labels. -/
def countName (f : Family) : String := if f.histogram then f.fullName ++ "_count" else f.fullName

def bucketName (f : Family) : String := f.fullName ++ "_bucket"

def countSample (f : Family) (entry : List String × Nat) : Sample :=
  ⟨f.countName, f.labels.zip entry.1, entry.2⟩

/-- The bucket that no latency is too long for. -/
def bucketSample (f : Family) (entry : List String × Nat) : Sample :=
  ⟨f.bucketName, f.labels.zip entry.1 ++ [("le", "+Inf")], entry.2⟩

def samples (f : Family) (entry : List String × Nat) : List Sample :=
  if f.histogram then [f.bucketSample entry, f.countSample entry] else [f.countSample entry]

theorem sampleLines_eq (f : Family) (entry : List String × Nat) :
    f.sampleLines entry = (f.samples entry).map Sample.line := by
  cases h : f.histogram <;>
    simp [sampleLines, samples, h, Sample.line, countSample, bucketSample, countName, bucketName,
      fullName]

theorem lines_of_nil {f : Family} {m : Metrics} (h : f.counter m = []) : f.lines m = [] := by
  simp only [lines, h]

theorem lines_of_ne_nil {f : Family} {m : Metrics} (h : f.counter m ≠ []) :
    f.lines m = f.helpLine :: f.typeLine :: (f.counter m).flatMap f.sampleLines := by
  unfold lines
  split
  · rename_i hnil
    exact absurd hnil h
  · rfl

end Family

/-! ## The families -/

theorem names_ordered : families.Pairwise fun f g => f.fullName < g.fullName := by decide +kernel

theorem comments_nodup : (families.flatMap fun f => [f.helpLine, f.typeLine]).Nodup := by
  decide +kernel

theorem name_readable : ∀ f ∈ families,
    ('\x7b' ∉ f.countName.toList ∧ f.countName.toList.head? = some 'r') ∧
    ('\x7b' ∉ f.bucketName.toList ∧ f.bucketName.toList.head? = some 'r') ∧
    f.labels ≠ [] ∧ ∀ l ∈ f.labels, '=' ∉ l.toList := by
  decide +kernel

theorem names_apart : ∀ f ∈ families, ∀ g ∈ families,
    (g.countName = f.countName ↔ g.name = f.name) ∧
    (g.bucketName = f.bucketName ↔ g.name = f.name) ∧ g.bucketName ≠ f.countName := by
  decide +kernel

/-- Of what stands under the families, that which stands under the one of this name. -/
theorem flatMap_families {α : Type} {f : Family} (hf : f ∈ families) (entries : Family → List α) :
    families.flatMap (fun g => if g.name = f.name then entries g else []) = entries f := by
  have hall : ∀ f ∈ families,
      families.flatMap (fun g => if g.name = f.name then entries g else []) = entries f :=
    forall_families.mpr (by simp [families])
  exact hall f hf

theorem eq_of_name {f g : Family} (hf : f ∈ families) (hg : g ∈ families) (h : g.name = f.name) :
    g = f := by
  have heq := flatMap_families hf fun g => [g]
  have hmem : g ∈ families.flatMap fun g => if g.name = f.name then [g] else [] :=
    List.mem_flatMap.mpr ⟨g, hg, by rw [if_pos h]; exact List.mem_singleton_self g⟩
  rw [heq] at hmem
  exact List.mem_singleton.mp hmem

variable {m : Metrics} {ticks : List Tick} {f g : Family} {entry : List String × Nat}

/-- There is a value for each label of what is counted. -/
def Complete (m : Metrics) : Prop :=
  ∀ f ∈ families, ∀ entry ∈ f.counter m, entry.1.length = f.labels.length

theorem Tabulates.complete (h : m.Tabulates ticks) (hfits : ∀ t ∈ ticks, t.Fits) :
    m.Complete := by
  intro f hf entry hentry
  obtain ⟨t, ht, hlabels⟩ := List.mem_map.mp ((h f hf).mem_counted hentry)
  obtain ⟨hmem, hname⟩ := List.mem_filter.mp ht
  rw [← hlabels]
  exact hfits t hmem f hf (of_decide_eq_true hname)

/-! ## Comments and samples -/

def samples (m : Metrics) : List Sample :=
  families.flatMap fun f => (f.counter m).flatMap f.samples

theorem mem_samples {s : Sample} (h : s ∈ f.samples entry) :
    s = f.bucketSample entry ∨ s = f.countSample entry := by
  rw [Family.samples] at h
  split at h
  · exact List.mem_pair.mp h
  · exact .inr (List.mem_singleton.mp h)

theorem isComment_sample (hf : f ∈ families) {s : Sample} (h : s ∈ f.samples entry) :
    isComment s.line = false := by
  obtain ⟨⟨-, hcount⟩, ⟨-, hbucket⟩, -⟩ := name_readable f hf
  rcases mem_samples h with rfl | rfl
  · exact isComment_line hbucket
  · exact isComment_line hcount

theorem isComment_helpLine (f : Family) : isComment f.helpLine = true := by
  simp [isComment, Family.helpLine]

theorem isComment_typeLine (f : Family) : isComment f.typeLine = true := by
  simp [isComment, Family.typeLine]

theorem isComment_sampleLines (hf : f ∈ families) {line : String}
    (h : line ∈ (f.counter m).flatMap f.sampleLines) : isComment line = false := by
  obtain ⟨entry, -, hline⟩ := List.mem_flatMap.mp h
  rw [Family.sampleLines_eq] at hline
  obtain ⟨s, hs, rfl⟩ := List.mem_map.mp hline
  exact isComment_sample hf hs

theorem filter_lines (hf : f ∈ families) (m : Metrics) :
    (f.lines m).filter (fun line => !isComment line) =
      ((f.counter m).flatMap f.samples).map Sample.line := by
  have hlines : (f.counter m).flatMap f.sampleLines =
      ((f.counter m).flatMap f.samples).map Sample.line := by
    rw [List.map_flatMap]
    exact List.flatMap_congr fun entry _ => f.sampleLines_eq entry
  by_cases hnil : f.counter m = []
  · rw [Family.lines_of_nil hnil, hnil]
    rfl
  · have hall : ∀ line ∈ (f.counter m).flatMap f.sampleLines, (!isComment line) = true := by
      intro line hline
      rw [isComment_sampleLines hf hline]
      rfl
    rw [Family.lines_of_ne_nil hnil, List.filter_cons_of_neg (by simp [isComment_helpLine]),
      List.filter_cons_of_neg (by simp [isComment_typeLine]), List.filter_eq_self.mpr hall, hlines]

theorem filter_lines_comments (hf : f ∈ families) (h : f.counter m ≠ []) :
    (f.lines m).filter isComment = [f.helpLine, f.typeLine] := by
  have hnone : ((f.counter m).flatMap f.sampleLines).filter isComment = [] := by
    refine List.filter_eq_nil_iff.mpr fun line hline => ?_
    rw [isComment_sampleLines hf hline]
    exact Bool.false_ne_true
  rw [Family.lines_of_ne_nil h, List.filter_cons_of_pos (isComment_helpLine f),
    List.filter_cons_of_pos (isComment_typeLine f), hnone]

/-! ## The families that are shown -/

/-- The families of which something was counted. -/
def shown (ticks : List Tick) : List Family :=
  families.filter fun f => ∃ t ∈ ticks, t.family = f.name

theorem counter_ne_nil_iff (h : m.Tabulates ticks) (hf : f ∈ families) :
    f.counter m ≠ [] ↔ ∃ t ∈ ticks, t.family = f.name := by
  rw [Ne, (h f hf).eq_nil_iff, Family.counted, List.map_eq_nil_iff, List.filter_eq_nil_iff]
  simp

theorem mem_shown (h : m.Tabulates ticks) : f ∈ shown ticks ↔ f ∈ families ∧ f.counter m ≠ [] := by
  rw [shown, List.mem_filter, decide_eq_true_eq]
  exact and_congr_right fun hf => (counter_ne_nil_iff h hf).symm

theorem flatMap_filter {α β : Type} {p : α → Bool} {lines : α → List β} {l : List α}
    (h : ∀ a ∈ l, p a = false → lines a = []) : (l.filter p).flatMap lines = l.flatMap lines := by
  induction l with
  | nil => rfl
  | cons a l ih =>
      obtain ⟨hhead, htail⟩ := List.forall_mem_cons.mp h
      cases hp : p a with
      | false => rw [List.filter_cons_of_neg (by simp [hp]), List.flatMap_cons, hhead hp, ih htail,
          List.nil_append]
      | true => rw [List.filter_cons_of_pos hp, List.flatMap_cons, List.flatMap_cons, ih htail]

theorem page_eq_shown (h : m.Tabulates ticks) :
    m.page = (shown ticks).flatMap (·.lines m) := by
  refine (flatMap_filter fun f hf hnone => Family.lines_of_nil ?_).symm
  by_contra hne
  exact of_decide_eq_false hnone ((counter_ne_nil_iff h hf).mp hne)

theorem page_eq (h : m.Tabulates ticks) :
    m.page = (shown ticks).flatMap fun f => f.helpLine :: f.typeLine ::
      (f.counter m).flatMap fun entry => (f.samples entry).map Sample.line := by
  simp only [page_eq_shown h, ← Family.sampleLines_eq]
  exact List.flatMap_congr fun f hf => Family.lines_of_ne_nil ((mem_shown h).mp hf).2

theorem filter_comments (h : m.Tabulates ticks) :
    m.page.filter isComment = (shown ticks).flatMap fun f => [f.helpLine, f.typeLine] := by
  rw [page_eq_shown h, List.filter_flatMap]
  refine List.flatMap_congr fun f hf => ?_
  obtain ⟨hfamily, hne⟩ := (mem_shown h).mp hf
  exact filter_lines_comments hfamily hne

theorem count_comment (h : m.Tabulates ticks) (hf : f ∈ shown ticks) {line : String}
    (hline : line ∈ [f.helpLine, f.typeLine]) : m.page.count line = 1 := by
  have hcomment : isComment line = true := by
    rcases List.mem_pair.mp hline with rfl | rfl
    · exact isComment_helpLine f
    · exact isComment_typeLine f
  have hnodup : ((shown ticks).flatMap fun f => [f.helpLine, f.typeLine]).Nodup :=
    comments_nodup.sublist (List.filter_sublist.flatMap _)
  rw [← List.count_filter hcomment, filter_comments h]
  exact List.count_eq_one_of_mem hnodup (List.mem_flatMap.mpr ⟨f, hf, hline⟩)

/-! ## Reading the page -/

theorem readSample_of_mem (hf : f ∈ families) (hlength : entry.1.length = f.labels.length)
    {s : Sample} (h : s ∈ f.samples entry) : readSample s.line = some s := by
  obtain ⟨⟨hcount, -⟩, ⟨hbucket, -⟩, hne, hlabels⟩ := name_readable f hf
  have hlabels' : ∀ l ∈ f.labels.zip entry.1, '=' ∉ l.1.toList := fun l hl =>
    hlabels l.1 (List.of_mem_zip hl).1
  rcases mem_samples h with rfl | rfl
  · refine readSample_line hbucket (List.append_ne_nil_of_right_ne_nil _ (List.cons_ne_nil _ _)) ?_
    intro l hl
    rcases List.mem_append.mp hl with hl | hl
    · exact hlabels' l hl
    · rw [List.mem_singleton.mp hl]
      decide
  · refine readSample_line hcount (fun hnil => ?_) hlabels'
    rcases List.zip_eq_nil_iff.mp hnil with hnil | hnil
    · exact hne hnil
    · rw [hnil] at hlength
      exact hne (List.length_eq_zero_iff.mp hlength.symm)

theorem readPage_page (h : m.Complete) : readPage m.page = some m.samples := by
  have hlines : m.page.filter (fun line => !isComment line) = m.samples.map Sample.line := by
    rw [page, samples, List.filter_flatMap, List.map_flatMap]
    exact List.flatMap_congr fun f hf => filter_lines hf m
  rw [readPage, hlines]
  refine mapM_readSample fun s hs => ?_
  obtain ⟨f, hf, hs⟩ := List.mem_flatMap.mp hs
  obtain ⟨entry, hentry, hs⟩ := List.mem_flatMap.mp hs
  exact readSample_of_mem hf (h f hf entry hentry) hs

theorem countsOf_flatMap {α : Type} (name : String) (labels : List String) (l : List α)
    (samples : α → List Sample) :
    countsOf name labels (l.flatMap samples) =
      l.flatMap fun a => countsOf name labels (samples a) := by
  rw [countsOf, List.filter_flatMap, List.map_flatMap]
  rfl

theorem countsOf_cons_of_ne {name : String} {labels : List String} {s : Sample}
    (h : s.name ≠ name) (rest : List Sample) :
    countsOf name labels (s :: rest) = countsOf name labels rest := by
  simp [countsOf, h]

theorem countsOf_cons_of_eq {name : String} {labels : List String} {s : Sample}
    (hname : s.name = name) (hlabels : s.labels.map (·.1) = labels) (rest : List Sample) :
    countsOf name labels (s :: rest) =
      (s.labels.map (·.2), s.count) :: countsOf name labels rest := by
  simp [countsOf, hname, hlabels]

/-- Counts that can be read from the samples of one family only are those of its counter. -/
theorem countsOf_samples (hf : f ∈ families) (h : m.Complete) {name : String}
    {labels : List String} {read : List String × Nat → List String × Nat}
    (hread : ∀ g ∈ families, ∀ entry, entry.1.length = g.labels.length →
      countsOf name labels (g.samples entry) = if g.name = f.name then [read entry] else []) :
    countsOf name labels m.samples = (f.counter m).map read := by
  rw [← flatMap_families hf fun g => (g.counter m).map read, samples, countsOf_flatMap]
  refine List.flatMap_congr fun g hg => ?_
  have hentries : (g.counter m).flatMap (fun entry => countsOf name labels (g.samples entry)) =
      (g.counter m).flatMap fun entry => if g.name = f.name then [read entry] else [] :=
    List.flatMap_congr fun entry hentry => hread g hg entry (h g hg entry hentry)
  rw [countsOf_flatMap, hentries]
  split
  · exact List.flatMap_pure_eq_map read _
  · exact List.flatMap_eq_nil_iff.mpr fun _ _ => rfl

theorem countsOf_countName (hf : f ∈ families) (h : m.Complete) :
    countsOf f.countName f.labels m.samples = f.counter m := by
  refine (countsOf_samples hf h fun g hg entry hlength => ?_).trans (List.map_id _)
  obtain ⟨hcount, -, hbucket⟩ := names_apart f hf g hg
  have hskip (rest : List Sample) : countsOf f.countName f.labels (g.bucketSample entry :: rest) =
      countsOf f.countName f.labels rest := countsOf_cons_of_ne hbucket rest
  have hsamples : countsOf f.countName f.labels (g.samples entry) =
      countsOf f.countName f.labels [g.countSample entry] := by
    rw [Family.samples]
    split
    · exact hskip _
    · rfl
  rw [hsamples]
  split
  · rename_i hname
    obtain rfl := eq_of_name hf hg hname
    have hlabels : (g.countSample entry).labels.map (·.1) = g.labels :=
      List.map_fst_zip (Nat.le_of_eq hlength.symm)
    have hvalues : (g.countSample entry).labels.map (·.2) = entry.1 :=
      List.map_snd_zip (Nat.le_of_eq hlength)
    have hname : (g.countSample entry).name = g.countName := rfl
    rw [countsOf_cons_of_eq hname hlabels, hvalues]
    rfl
  · rename_i hname
    exact countsOf_cons_of_ne (mt hcount.mp hname) []

theorem countsOf_bucketName (hf : f ∈ families) (h : m.Complete) (hhistogram : f.histogram) :
    countsOf f.bucketName (f.labels ++ ["le"]) m.samples =
      (f.counter m).map fun entry => (entry.1 ++ ["+Inf"], entry.2) := by
  refine countsOf_samples hf h fun g hg entry hlength => ?_
  obtain ⟨-, hbucket, -⟩ := names_apart f hf g hg
  obtain ⟨-, -, hcount⟩ := names_apart g hg f hf
  have hskip : countsOf f.bucketName (f.labels ++ ["le"]) [g.countSample entry] = [] :=
    countsOf_cons_of_ne hcount.symm []
  split
  · rename_i hname
    obtain rfl := eq_of_name hf hg hname
    have hlabels : (g.bucketSample entry).labels.map (·.1) = g.labels ++ ["le"] := by
      rw [Family.bucketSample, List.map_append, List.map_fst_zip (Nat.le_of_eq hlength.symm)]
      rfl
    have hvalues : (g.bucketSample entry).labels.map (·.2) = entry.1 ++ ["+Inf"] := by
      rw [Family.bucketSample, List.map_append, List.map_snd_zip (Nat.le_of_eq hlength)]
      rfl
    have hname : (g.bucketSample entry).name = g.bucketName := rfl
    rw [Family.samples, if_pos hhistogram, countsOf_cons_of_eq hname hlabels, hvalues, hskip]
    rfl
  · rename_i hname
    rw [Family.samples]
    split
    · rw [countsOf_cons_of_ne (mt hbucket.mp hname), hskip]
    · exact hskip

/-! ## The four counters -/

def sampleNames : List String := [
  "relay_api_http_requests_total",
  "relay_api_http_responses_total",
  "relay_api_http_request_duration_seconds_count",
  "relay_api_http_request_duration_seconds_bucket",
  "relay_api_validator_registrations_total"]

/-- Under which names a client finds the counters: what it reads of each is what it holds, and of the
latencies it also reads the bucket that no latency is too long for. There are no other samples. -/
structure ReadsBack (m : Metrics) (samples : List Sample) : Prop where
  requests : countsOf "relay_api_http_requests_total" ["endpoint", "method"] samples = m.requests
  responses : countsOf "relay_api_http_responses_total" ["endpoint", "method", "status"] samples =
    m.responses
  latencies : countsOf "relay_api_http_request_duration_seconds_count" ["endpoint", "method"]
    samples = m.latencies
  buckets : countsOf "relay_api_http_request_duration_seconds_bucket" ["endpoint", "method", "le"]
    samples = m.latencies.map fun entry => (entry.1 ++ ["+Inf"], entry.2)
  registrations : countsOf "relay_api_validator_registrations_total" ["outcome"] samples =
    m.registrations
  names : ∀ s ∈ samples, s.name ∈ sampleNames

theorem families_eq (m : Metrics) :
    families.map (fun f => (f.fullName, f.labels, f.histogram, f.counter m)) = [
      ("relay_api_http_request_duration_seconds", ["endpoint", "method"], true, m.latencies),
      ("relay_api_http_requests_total", ["endpoint", "method"], false, m.requests),
      ("relay_api_http_responses_total", ["endpoint", "method", "status"], false, m.responses),
      ("relay_api_validator_registrations_total", ["outcome"], false, m.registrations)] := rfl

theorem name_mem_sampleNames {s : Sample} (hs : s ∈ m.samples) : s.name ∈ sampleNames := by
  have hnames : ∀ f ∈ families, ∀ entry, ∀ s ∈ f.samples entry, s.name ∈ sampleNames := by
    refine forall_families.mpr ⟨?_, ?_, ?_, ?_⟩
    all_goals simp [families, sampleNames, Family.samples, Family.countSample,
      Family.bucketSample, Family.countName, Family.bucketName, Family.fullName, familyStart]
  obtain ⟨f, hf, hs⟩ := List.mem_flatMap.mp hs
  obtain ⟨entry, -, hs⟩ := List.mem_flatMap.mp hs
  exact hnames f hf entry s hs

theorem readsBack_samples (h : m.Complete) : m.ReadsBack m.samples := by
  obtain ⟨hlatencies, hrequests, hresponses, hregistrations⟩ :=
    forall_families.mp fun f hf => countsOf_countName hf h
  exact {
    requests := hrequests
    responses := hresponses
    latencies := hlatencies
    buckets := countsOf_bucketName (f := families[0]) List.mem_cons_self h rfl
    registrations := hregistrations
    names := fun _ => name_mem_sampleNames }

/-- A counter is the table of what was counted in the family that has its name. -/
theorem Tabulates.of_name (h : m.Tabulates ticks) {name : String} {counter : Counter}
    (hmem : (name, counter) ∈ [("http_requests_total", m.requests),
      ("http_responses_total", m.responses), ("http_request_duration_seconds", m.latencies),
      ("validator_registrations_total", m.registrations)]) :
    counter.Tabulates ((ticks.filter (·.family = name)).map (·.labels)) := by
  obtain ⟨hlatencies, hrequests, hresponses, hregistrations⟩ := forall_families.mp h
  simp only [List.mem_cons, Prod.mk.injEq, List.not_mem_nil, or_false] at hmem
  rcases hmem with ⟨rfl, rfl⟩ | ⟨rfl, rfl⟩ | ⟨rfl, rfl⟩ | ⟨rfl, rfl⟩
  · exact hrequests
  · exact hresponses
  · exact hlatencies
  · exact hregistrations

theorem page_congr {m' : Metrics} (h : ∀ f ∈ families, f.counter m' = f.counter m) :
    m'.page = m.page := by
  refine List.flatMap_congr fun f hf => ?_
  rw [Family.lines, Family.lines, h f hf]

/-- Counters with the same values are shown on the same page. -/
theorem Tabulates.page_congr {m' : Metrics} {ticks' : List Tick} (h : m.Tabulates ticks)
    (h' : m'.Tabulates ticks') (hvalues : ∀ labels,
      m'.requests.value labels = m.requests.value labels ∧
      m'.responses.value labels = m.responses.value labels ∧
      m'.latencies.value labels = m.latencies.value labels ∧
      m'.registrations.value labels = m.registrations.value labels) :
    m'.page = m.page := by
  have hsame : ∀ f ∈ families, ∀ labels,
      (f.counter m').value labels = (f.counter m).value labels :=
    forall_families.mpr ⟨fun labels => (hvalues labels).2.2.1, fun labels => (hvalues labels).1,
      fun labels => (hvalues labels).2.1, fun labels => (hvalues labels).2.2.2⟩
  exact Metrics.page_congr fun f hf => (h' f hf).eq_of_value (h f hf) (hsame f hf)

end BuilderRelay.Metrics

namespace BuilderRelay

open Metrics (Sample families shown readPage)

/-- Whatever happened to a relay, its metrics page only depends on the values of its four counters.
It shows the families of which something was counted, by name, each with its comments once and then
the samples of all labels that were ever counted in it, in order and each once; and what a client
reads from the samples is what the counters hold. -/
theorem metrics_page_canonical (bls : Bls.Scheme) (relay : Relay) (events : List RelayEvent)
    (cache : Cache) :
    let m := (relay.run bls events ⟨cache, .empty⟩).1.metrics
    let ticks := relay.ticks bls events ⟨cache, .empty⟩
    (∀ (bls' : Bls.Scheme) (relay' : Relay) (events' : List RelayEvent) (cache' : Cache),
      let m' := (relay'.run bls' events' ⟨cache', .empty⟩).1.metrics
      (∀ labels, m'.requests.value labels = m.requests.value labels ∧
        m'.responses.value labels = m.responses.value labels ∧
        m'.latencies.value labels = m.latencies.value labels ∧
        m'.registrations.value labels = m.registrations.value labels) → m'.page = m.page) ∧
    families.map (fun f => (f.fullName, f.labels, f.histogram, f.counter m)) = [
      ("relay_api_http_request_duration_seconds", ["endpoint", "method"], true, m.latencies),
      ("relay_api_http_requests_total", ["endpoint", "method"], false, m.requests),
      ("relay_api_http_responses_total", ["endpoint", "method", "status"], false, m.responses),
      ("relay_api_validator_registrations_total", ["outcome"], false, m.registrations)] ∧
    m.page = (shown ticks).flatMap (fun f => f.helpLine :: f.typeLine ::
      (f.counter m).flatMap fun entry => (f.samples entry).map Sample.line) ∧
    (∀ f, f ∈ shown ticks ↔ f ∈ families ∧ ∃ t ∈ ticks, t.family = f.name) ∧
    ((shown ticks).Pairwise fun f g => f.fullName < g.fullName) ∧
    (∀ f ∈ shown ticks, m.page.count f.helpLine = 1 ∧ m.page.count f.typeLine = 1) ∧
    (∀ name counter, (name, counter) ∈ [("http_requests_total", m.requests),
        ("http_responses_total", m.responses), ("http_request_duration_seconds", m.latencies),
        ("validator_registrations_total", m.registrations)] →
      (counter.Pairwise fun a b => a.1 < b.1) ∧
      ∀ labels n, (labels, n) ∈ counter ↔
        0 < n ∧ n = ((ticks.filter (·.family = name)).map (·.labels)).count labels) ∧
    ∃ samples, readPage m.page = some samples ∧ m.ReadsBack samples := by
  intro m ticks
  have htables : m.Tabulates ticks :=
    Metrics.Tabulates.run bls relay (s := ⟨cache, .empty⟩) .empty events
  have hcomplete : m.Complete := htables.complete fun t ht => Relay.fits_ticks ht
  refine ⟨?_, Metrics.families_eq m, Metrics.page_eq htables, fun f => ?_,
    Metrics.names_ordered.sublist List.filter_sublist, fun f hf => ⟨?_, ?_⟩,
    fun name counter hmem => ?_, m.samples, Metrics.readPage_page hcomplete,
    Metrics.readsBack_samples hcomplete⟩
  · intro bls' relay' events' cache' m' hvalues
    exact htables.page_congr
      (Metrics.Tabulates.run bls' relay' (s := ⟨cache', .empty⟩) .empty events') hvalues
  · rw [shown, List.mem_filter, decide_eq_true_eq]
  · exact Metrics.count_comment htables hf List.mem_cons_self
  · exact Metrics.count_comment htables hf (List.mem_cons_of_mem _ List.mem_cons_self)
  · have htable := htables.of_name hmem
    exact ⟨htable.ordered, fun labels n => htable.mem_iff⟩

end BuilderRelay
