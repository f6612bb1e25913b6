import BuilderRelay.Json.Reader
import BuilderRelay.Text.Number

/-!
# Fields of fixed width, and numbers in quotes

A byte field is a string of hexadecimal digits, with or without a prefix, or a list of exactly as
many numbers. After the last number one more element is looked for: a number there makes the list
too long, while anything that is no byte is passed over as far as it was read.
-/

namespace BuilderRelay.Json

def withoutPrefix : Bytes → Bytes
  | a :: b :: rest => if a = 0x30 ∧ (b = 0x78 ∨ b = 0x58) then rest else a :: b :: rest
  | bytes => bytes

def decodePairs : Bytes → Bytes
  | a :: b :: rest =>
      UInt8.ofNat ((hexValue a).getD 0 * 16 + (hexValue b).getD 0) :: decodePairs rest
  | _ => []

def firstBadDigit (digits : Bytes) : Option (UInt8 × Nat) :=
  digits.zipIdx.find? fun pair => (hexValue pair.1).isNone

/-- A byte field from its digits: their parity is looked at first, then their number. -/
def hexField (n : Nat) (text : String) : Except Misfit (ByteVector n) :=
  let digits := withoutPrefix (Utf8.encode text)
  if digits.length % 2 ≠ 0 then .error (.custom "odd number of digits")
  else if digits.length ≠ 2 * n then .error (.custom "invalid string length")
  else
    match firstBadDigit digits with
    | some (b, i) =>
        let c := Text.quoteChar (Char.ofNat b.toNat)
        .error (.custom s!"invalid character {c} at position {i}")
    | none =>
        match ByteVector.ofBytes? n (decodePairs digits) with
        | some v => .ok v
        | none => .error (.custom "invalid string length")

namespace Reader

/-- The next `left` numbers of a list of `n`, behind those in `acc`. -/
def byteElements (n : Nat) : (left : Nat) → (acc : Bytes) → Reader Bytes
  | 0, acc => fun c => .ok (acc.reverse, c)
  | left + 1, acc => fun c =>
      let i := n - (left + 1)
      match nextElement (i = 0) c.rest with
      | .error stop => fail c stop
      | .ok none => misfit c (.invalidLength i s!"exactly {n} bytes") (pastSequence c.rest)
      | .ok (some rest) =>
          match within (.index i) byte { c with rest } with
          | .error fault => .error fault
          | .ok (b, c) => byteElements n left (b :: acc) c

def surplus (n : Nat) : Reader Unit := fun c =>
  match nextElement (n = 0) c.rest with
  | .error stop => .ok ((), { c with rest := stop.rest })
  | .ok none => .ok ((), c)
  | .ok (some rest) =>
      match within (.index n) byte { c with rest } with
      | .error fault => .ok ((), ⟨fault.stop.rest, some fault.path⟩)
      | .ok (_, c) => misfit c (.invalidLength (n + 1) s!"exactly {n} bytes") (pastSequence c.rest)

def byteList (n : Nat) : Reader (ByteVector n) := fun c =>
  match byteElements n n [] c with
  | .error fault => .error fault
  | .ok (bytes, c) =>
      match surplus n c with
      | .error fault => .error fault
      | .ok ((), c) =>
          let v := (ByteVector.ofBytes? n bytes).getD (.zero n)
          lift (fun rest => (endSequence rest).map (v, ·)) c

def byteFieldText (n : Nat) : String :=
  s!"{n} bytes, represented as a hex string of length {2 * n}, an array of u8, or raw bytes"

def byteField (n : Nat) : Reader (ByteVector n) := fun c =>
  match peek c.rest with
  | .error stop => fail c stop
  | .ok (b, tail) =>
      if b = 0x22 then stringAs (hexField n) c
      else if b = 0x5b then byteList n { c with rest := tail }
      else if b = 0x7b then misfit c (.invalidType .map (byteFieldText n)) (pastMap tail)
      else
        match unexpectedValue (byteFieldText n) b tail with
        | .error stop => fail c stop
        | .ok never => .ok never

def quotedUInt64 : Reader UInt64 :=
  stringAs fun s => (Text.readUInt64 s).mapError fun fault => .custom fault.message

end Reader

end BuilderRelay.Json
