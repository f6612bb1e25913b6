import BuilderRelay.Proofs.Text.Numerals
import BuilderRelay.Relay.Metrics

/-!
# Reading samples

How a client reads the metrics page: it passes over the comments, and takes each other line for a
sample, with the name, the labels and the count that stand in it. A line that was written for a
sample is read as that sample.
-/

namespace BuilderRelay.Metrics

structure Sample where
  name : String
  labels : List (String × String)
  count : Nat
  deriving DecidableEq, Repr

/-! ## Reading -/

/-- The text before the first `mark`, and the text behind it. -/
def cut (mark : Char) : List Char → Option (List Char × List Char)
  | [] => none
  | c :: rest =>
      if c = mark then some ([], rest) else (cut mark rest).map (Prod.map (c :: ·) id)

/-- The character that a backslash and this one stand for. -/
def unescape (c : Char) : Option Char :=
  if c = 'n' then some '\n' else if c = '\\' ∨ c = '"' then some c else none

/-- The value up to the quotation mark that ends it, and the text behind that. -/
def readQuoted : List Char → Option (List Char × List Char)
  | [] => none
  | '"' :: rest => some ([], rest)
  | '\\' :: c :: rest =>
      (unescape c).bind fun c => (readQuoted rest).map (Prod.map (c :: ·) id)
  | c :: rest => (readQuoted rest).map (Prod.map (c :: ·) id)

theorem length_lt_of_cut {mark : Char} {text before behind : List Char}
    (h : cut mark text = some (before, behind)) : behind.length < text.length := by
  induction text generalizing before with
  | nil => cases h
  | cons c rest ih =>
      rw [cut] at h
      split at h
      · cases h
        exact Nat.lt_succ_self _
      · obtain ⟨found, hfound, heq⟩ := Option.map_eq_some_iff.mp h
        cases heq
        exact Nat.lt_succ_of_lt (ih hfound)

theorem length_lt_of_readQuoted {text value behind : List Char}
    (h : readQuoted text = some (value, behind)) : behind.length < text.length := by
  induction text using readQuoted.induct generalizing value with
  | case1 => cases h
  | case2 rest =>
      cases h
      exact Nat.lt_succ_self _
  | case3 c rest ih =>
      obtain ⟨_, -, h⟩ := Option.bind_eq_some_iff.mp h
      obtain ⟨found, hfound, heq⟩ := Option.map_eq_some_iff.mp h
      cases heq
      exact Nat.lt_succ_of_lt (Nat.lt_succ_of_lt (ih hfound))
  | case4 c rest hquote hescape ih =>
      rw [readQuoted] at h
      · obtain ⟨found, hfound, heq⟩ := Option.map_eq_some_iff.mp h
        cases heq
        exact Nat.lt_succ_of_lt (ih hfound)
      · exact hquote
      · exact hescape

/-- A label up to the quotation mark that ends its value, and the text behind that. -/
def readLabel (text : List Char) : Option ((String × String) × List Char) :=
  match cut '=' text with
  | some (name, '"' :: quoted) =>
      (readQuoted quoted).map fun (value, behind) => ((.ofList name, .ofList value), behind)
  | _ => none

theorem length_lt_of_readLabel {text behind : List Char} {label : String × String}
    (h : readLabel text = some (label, behind)) : behind.length < text.length := by
  rw [readLabel] at h
  split at h
  · rename_i hcut
    obtain ⟨found, hfound, heq⟩ := Option.map_eq_some_iff.mp h
    cases heq
    have hquoted := length_lt_of_readQuoted hfound
    have hbehind := length_lt_of_cut hcut
    rw [List.length_cons] at hbehind
    omega
  · cases h

/-- The labels up to the brace that ends them, and the text behind that. -/
def readLabels (text : List Char) : Option (List (String × String) × List Char) :=
  match _ : readLabel text with
  | some (label, ',' :: rest) => (readLabels rest).map (Prod.map (label :: ·) id)
  | some (label, '\x7d' :: behind) => some ([label], behind)
  | _ => none
termination_by text.length
decreasing_by
  have hshorter := length_lt_of_readLabel ‹readLabel text = _›
  exact Nat.lt_of_succ_lt hshorter

def readCount (digits : List Char) : Option Nat :=
  if digits ≠ [] ∧ digits.all Char.isDigit then some (Nat.ofDigitChars 10 digits 0) else none

def readSample (line : String) : Option Sample :=
  match cut '\x7b' line.toList with
  | none => none
  | some (name, rest) =>
      match readLabels rest with
      | some (labels, ' ' :: digits) => (readCount digits).map (⟨.ofList name, labels, ·⟩)
      | _ => none

def isComment (line : String) : Bool := line.toList.head? = some '#'

/-- The samples of a page, if each of its lines is a comment or a sample. -/
def readPage (lines : List String) : Option (List Sample) :=
  (lines.filter fun line => !isComment line).mapM readSample

/-- The counts of the samples of a name whose labels have these names, by label values. -/
def countsOf (name : String) (labels : List String) (samples : List Sample) : Counter :=
  (samples.filter fun s => s.name = name ∧ s.labels.map (·.1) = labels).map fun s =>
    (s.labels.map (·.2), s.count)

/-! ## What was written is read -/

def Sample.line (s : Sample) : String := sampleLine s.name s.labels s.count

theorem cut_append {mark : Char} {before : List Char} (h : mark ∉ before) (behind : List Char) :
    cut mark (before ++ mark :: behind) = some (before, behind) := by
  induction before with
  | nil => exact if_pos rfl
  | cons c before ih =>
      have hc : ¬ c = mark := (List.ne_of_not_mem_cons h).symm
      rw [List.cons_append, cut, if_neg hc, ih (List.not_mem_of_not_mem_cons h)]
      rfl

theorem readQuoted_escapeLabelChar (c : Char) (rest : List Char) :
    readQuoted (escapeLabelChar c ++ rest) = (readQuoted rest).map (Prod.map (c :: ·) id) := by
  rw [escapeLabelChar]
  split
  · rename_i hc
    rw [hc]
    rfl
  · split
    · rename_i hc
      rw [hc]
      rfl
    · split
      · rename_i hc
        rw [hc]
        rfl
      · rename_i hbackslash hquote hnewline
        rw [List.singleton_append, readQuoted]
        · intro heq
          exact hquote heq
        · intro _ _ heq
          exact absurd heq hbackslash

theorem readQuoted_escaped (value behind : List Char) :
    readQuoted (value.flatMap escapeLabelChar ++ '"' :: behind) = some (value, behind) := by
  induction value with
  | nil => rfl
  | cons c value ih =>
      rw [List.flatMap_cons, List.append_assoc, readQuoted_escapeLabelChar, ih]
      rfl

theorem readLabel_labelText {name : String} (h : '=' ∉ name.toList) (value : String)
    (behind : List Char) :
    readLabel ((labelText name value).toList ++ behind) = some ((name, value), behind) := by
  have htext : (labelText name value).toList ++ behind =
      name.toList ++ '=' :: '"' :: (value.toList.flatMap escapeLabelChar ++ '"' :: behind) := by
    simp [labelText]
  rw [htext, readLabel, cut_append h]
  simp only [readQuoted_escaped, Option.map_some, String.ofList_toList]

theorem readLabels_of_comma {text rest : List Char} {label : String × String}
    (h : readLabel text = some (label, ',' :: rest)) :
    readLabels text = (readLabels rest).map (Prod.map (label :: ·) id) := by
  rw [readLabels]
  split <;> simp_all

theorem readLabels_of_brace {text behind : List Char} {label : String × String}
    (h : readLabel text = some (label, '\x7d' :: behind)) :
    readLabels text = some ([label], behind) := by
  rw [readLabels]
  split <;> simp_all

/-- The labels of a sample as the page writes them, with the brace behind them. -/
theorem readLabels_text {labels : List (String × String)} (hne : labels ≠ [])
    (hnames : ∀ l ∈ labels, '=' ∉ l.1.toList) (behind : List Char) :
    readLabels ((",".intercalate (labels.map fun l => labelText l.1 l.2)).toList ++
      '\x7d' :: behind) = some (labels, behind) := by
  rw [String.toList_intercalate]
  induction labels with
  | nil => exact absurd rfl hne
  | cons label labels ih =>
      obtain ⟨hname, hnames⟩ := List.forall_mem_cons.mp hnames
      cases labels with
      | nil =>
          refine readLabels_of_brace ?_
          simp [List.intercalate, readLabel_labelText hname]
      | cons next labels =>
          have hrest := ih (List.cons_ne_nil _ _) hnames
          have htext : ",".toList.intercalate
              (((label :: next :: labels).map fun l => labelText l.1 l.2).map String.toList) =
              (labelText label.1 label.2).toList ++ ',' :: ",".toList.intercalate
                (((next :: labels).map fun l => labelText l.1 l.2).map String.toList) := by
            simp [List.intercalate]
          rw [htext, List.append_assoc, List.cons_append,
            readLabels_of_comma (readLabel_labelText hname _ _), hrest]
          rfl

theorem readCount_toString (n : Nat) : readCount (toString n).toList = some n := by
  have hdigits : (Nat.toDigits 10 n).all Char.isDigit := List.all_eq_true.mpr fun c hc =>
    Text.isDigit_of_mem_toDigits hc
  rw [Text.toList_toString, readCount, if_pos ⟨Nat.toDigits_ne_nil, hdigits⟩,
    Nat.ofDigitChars_ten_toDigits]

theorem readSample_line {s : Sample} (hname : '\x7b' ∉ s.name.toList) (hne : s.labels ≠ [])
    (hlabels : ∀ l ∈ s.labels, '=' ∉ l.1.toList) : readSample s.line = some s := by
  let labels := (",".intercalate (s.labels.map fun l => labelText l.1 l.2)).toList
  have htext : s.line.toList =
      s.name.toList ++ '\x7b' :: (labels ++ '\x7d' :: ' ' :: (toString s.count).toList) := by
    simp [Sample.line, sampleLine, labels]
  rw [readSample, htext, cut_append hname]
  simp only [labels, readLabels_text hne hlabels, readCount_toString, Option.map_some,
    String.ofList_toList]

theorem isComment_line {s : Sample} (h : s.name.toList.head? = some 'r') :
    isComment s.line = false := by
  cases hname : s.name.toList with
  | nil =>
      rw [hname] at h
      cases h
  | cons c rest =>
      rw [hname] at h
      cases h
      simp [isComment, Sample.line, sampleLine, hname]

theorem mapM_readSample {samples : List Sample} (h : ∀ s ∈ samples, readSample s.line = some s) :
    (samples.map Sample.line).mapM readSample = some samples := by
  induction samples with
  | nil => rfl
  | cons s samples ih =>
      obtain ⟨hread, hrest⟩ := List.forall_mem_cons.mp h
      rw [List.map_cons, List.mapM_cons, hread, ih hrest]
      rfl

end BuilderRelay.Metrics
