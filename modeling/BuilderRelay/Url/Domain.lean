import BuilderRelay.Url.DirectionTables
import BuilderRelay.Url.DomainTables
import BuilderRelay.Url.Punycode
import BuilderRelay.Text.Utf8

/-!
# Domain names

Which texts are domain names of web addresses. Upper case is folded, characters that do not count
are left out, and what is left may hold no character with a meaning in an address. Labels may not
begin with a combining mark nor hide what they mean in an encoding that is not needed, and a name
with letters that run from right to left has to be readable in one way only.
-/

namespace BuilderRelay.Domain

def inRanges (ranges : List (Nat × Nat)) (c : Char) : Bool :=
  ranges.any fun range => range.1 ≤ c.toNat && c.toNat ≤ range.2

def isForbidden (c : Char) : Bool :=
  c.toNat ≤ 0x20 || c.toNat = 0x7f ||
    ['#', '%', '/', ':', '<', '>', '?', '@', '[', '\\', ']', '^', '|'].contains c

/-- What a character stands for; `none` when it may not occur. -/
def mapChar (c : Char) : Option (List Char) :=
  if c.toNat < 0x80 then some [c.toLower]
  else if inRanges ignoredRanges c then some []
  else if inRanges disallowedRanges c then none
  else
    match asciiRuns.find? fun run => run.1 ≤ c.toNat && c.toNat ≤ run.2.1 with
    | some (first, _, code) => some [Char.ofNat (code + (c.toNat - first))]
    | none =>
        match asciiTexts.lookup c.toNat with
        | some text => some text.toList
        | none => some [c]

def mapAll (cs : List Char) : Option (List Char) := (cs.mapM mapChar).map List.flatten

def splitLabels (cs : List Char) : List (List Char) :=
  cs.foldr (fun c parts =>
    if c = '.' then [] :: parts
    else match parts with
      | part :: rest => (c :: part) :: rest
      | [] => [[c]]) [[]]

def isJoiner (c : Char) : Bool := c.toNat = 0x200c || c.toNat = 0x200d

/-- Whether every joiner stands after a sign that calls for one. -/
def joinersAllowed : Option Char → List Char → Bool
  | _, [] => true
  | previous, c :: rest =>
      (!isJoiner c || previous.any (inRanges viramaRanges)) && joinersAllowed (some c) rest

def labelAllowed (label : List Char) : Bool :=
  !label.any isForbidden && !label.head?.any (inRanges markRanges) && joinersAllowed none label

def isSettled (c : Char) : Bool :=
  if c.toNat < 0x80 then !c.isUpper
  else !inRanges ignoredRanges c && !inRanges disallowedRanges c && !inRanges mappedRanges c

/-- What a label encodes, if it is encoded; such a label needs its encoding. -/
def decodeLabel : List Char → Option (List Char)
  | 'x' :: 'n' :: '-' :: '-' :: rest => do
      let label ← Punycode.decode rest
      if label.any (128 ≤ ·.toNat) && label.all isSettled then some label else none
  | label => some label

/-! ## Reading direction -/

inductive Direction where
  | left
  | right
  | arabicNumber
  | europeanNumber
  | nonspacing
  | neutral
  deriving DecidableEq, Repr

def direction (c : Char) : Direction :=
  if c.isAlpha then .left
  else if c.isDigit then .europeanNumber
  else if c.toNat < 0x80 then .neutral
  else if inRanges rightToLeftRanges c then .right
  else if inRanges arabicNumberRanges c then .arabicNumber
  else if inRanges europeanNumberRanges c then .europeanNumber
  else if inRanges nonspacingRanges c then .nonspacing
  else if inRanges neutralRanges c then .neutral
  else .left

def withoutMarks (ds : List Direction) : List Direction :=
  (ds.reverse.dropWhile (· = .nonspacing)).reverse

/-- Whether a label begins and ends in one direction and has nothing of the other. -/
def directionAllowed (label : List Char) : Bool :=
  let ds := label.map direction
  match ds.head?, (withoutMarks ds).getLast? with
  | none, _ => true
  | some .left, some last =>
      !ds.any (fun d => d = .right || d = .arabicNumber) && (last = .left || last = .europeanNumber)
  | some .right, some last =>
      !ds.contains .left && (last = .right || last = .europeanNumber || last = .arabicNumber) &&
        !(ds.contains .europeanNumber && ds.contains .arabicNumber)
  | some _, _ => false

def hasRightToLeft (label : List Char) : Bool :=
  label.any fun c => direction c = .right || direction c = .arabicNumber

/-- The name that a text stands for, with its encoded labels left as they are. -/
def read (bytes : Bytes) : Option (List Char) := do
  let text ← Utf8.decode bytes
  let name ← mapAll text.toList
  let labels ← (splitLabels name).mapM decodeLabel
  if labels.all labelAllowed && (!labels.any hasRightToLeft || labels.all directionAllowed) then
    some name
  else none

end BuilderRelay.Domain
