import BuilderRelay.Data.Bytes

/-!
# UTF-8

Texts as bytes and bytes as texts. Bytes that are not well-formed either have no text at all
(`decode`) or have each maximal ill-formed stretch replaced by U+FFFD (`decodeLossy`).
-/

namespace BuilderRelay.Utf8

def encode (s : String) : Bytes := s.toList.flatMap String.utf8EncodeChar

def decode (bytes : Bytes) : Option String := String.fromUTF8? ⟨bytes.toArray⟩

def isContinuation (b : UInt8) : Bool := 0x80 ≤ b && b ≤ 0xbf

def secondAllowed (lead second : UInt8) : Bool :=
  if lead == 0xe0 then 0xa0 ≤ second && second ≤ 0xbf
  else if lead == 0xed then 0x80 ≤ second && second ≤ 0x9f
  else if lead == 0xf0 then 0x90 ≤ second && second ≤ 0xbf
  else if lead == 0xf4 then 0x80 ≤ second && second ≤ 0x8f
  else isContinuation second

/-- How many bytes the sequence that a lead byte starts has; zero when nothing starts with it. -/
def sequenceLength (lead : UInt8) : Nat :=
  if lead < 0x80 then 1
  else if 0xc2 ≤ lead && lead ≤ 0xdf then 2
  else if 0xe0 ≤ lead && lead ≤ 0xef then 3
  else if 0xf0 ≤ lead && lead ≤ 0xf4 then 4
  else 0

def continuation (wanted : Nat) (bytes : Bytes) : Bytes :=
  (bytes.take wanted).takeWhile isContinuation

/-- The first sequence: how many bytes it takes, and its character when it is well-formed. -/
def firstSequence (lead : UInt8) (rest : Bytes) : Nat × Option Char :=
  let wanted := sequenceLength lead - 1
  match sequenceLength lead, rest with
  | 0, _ => (1, none)
  | 1, _ => (1, some (Char.ofNat lead.toNat))
  | _, [] => (1, none)
  | length, second :: _ =>
      if secondAllowed lead second then
        let tail := continuation wanted rest
        let start := lead.toNat % Nat.pow 2 (7 - length)
        if tail.length = wanted then
          (length, some (Char.ofNat (tail.foldl (fun n b => n * 64 + b.toNat % 64) start)))
        else (1 + tail.length, none)
      else (1, none)

/-- Reads sequences until none are left; `skip` counts the bytes still to be passed over. -/
def scan (skip : Nat) (acc : List (Option Char)) : Bytes → List (Option Char)
  | [] => acc.reverse
  | b :: rest =>
      match skip with
      | skip + 1 => scan skip acc rest
      | 0 =>
          let (length, c) := firstSequence b rest
          scan (length - 1) (c :: acc) rest

def illFormed (skip : Nat) : Bytes → Bytes
  | [] => []
  | b :: rest =>
      match skip with
      | skip + 1 => illFormed skip rest
      | 0 =>
          match firstSequence b rest with
          | (length, some _) => illFormed (length - 1) rest
          | (_, none) => b :: rest

/-- The text with U+FFFD for every maximal ill-formed stretch. -/
def decodeLossy (bytes : Bytes) : String :=
  .ofList ((scan 0 [] bytes).map (·.getD (Char.ofNat 0xfffd)))

end BuilderRelay.Utf8
