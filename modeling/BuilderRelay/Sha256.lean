import BuilderRelay.Data.Bytes

/-!
# SHA-256

The SHA-256 hash of byte strings. Chaining state, message schedule and digest carry their widths in
their types.
-/

namespace BuilderRelay

namespace Sha256

/-- The first 32 fractional bits of the cube roots of the first sixty-four primes. -/
def roundConstants : Vector UInt32 64 := #v[
  0x428a2f98, 0x71374491, 0xb5c0fbcf, 0xe9b5dba5, 0x3956c25b, 0x59f111f1, 0x923f82a4, 0xab1c5ed5,
  0xd807aa98, 0x12835b01, 0x243185be, 0x550c7dc3, 0x72be5d74, 0x80deb1fe, 0x9bdc06a7, 0xc19bf174,
  0xe49b69c1, 0xefbe4786, 0x0fc19dc6, 0x240ca1cc, 0x2de92c6f, 0x4a7484aa, 0x5cb0a9dc, 0x76f988da,
  0x983e5152, 0xa831c66d, 0xb00327c8, 0xbf597fc7, 0xc6e00bf3, 0xd5a79147, 0x06ca6351, 0x14292967,
  0x27b70a85, 0x2e1b2138, 0x4d2c6dfc, 0x53380d13, 0x650a7354, 0x766a0abb, 0x81c2c92e, 0x92722c85,
  0xa2bfe8a1, 0xa81a664b, 0xc24b8b70, 0xc76c51a3, 0xd192e819, 0xd6990624, 0xf40e3585, 0x106aa070,
  0x19a4c116, 0x1e376c08, 0x2748774c, 0x34b0bcb5, 0x391c0cb3, 0x4ed8aa4a, 0x5b9cca4f, 0x682e6ff3,
  0x748f82ee, 0x78a5636f, 0x84c87814, 0x8cc70208, 0x90befffa, 0xa4506ceb, 0xbef9a3f7, 0xc67178f2]

structure State where
  a : UInt32
  b : UInt32
  c : UInt32
  d : UInt32
  e : UInt32
  f : UInt32
  g : UInt32
  h : UInt32

def State.initial : State :=
  ⟨0x6a09e667, 0xbb67ae85, 0x3c6ef372, 0xa54ff53a, 0x510e527f, 0x9b05688c, 0x1f83d9ab, 0x5be0cd19⟩

def State.add (s t : State) : State :=
  ⟨s.a + t.a, s.b + t.b, s.c + t.c, s.d + t.d, s.e + t.e, s.f + t.f, s.g + t.g, s.h + t.h⟩

def State.words (s : State) : Vector UInt32 8 := #v[s.a, s.b, s.c, s.d, s.e, s.f, s.g, s.h]

def rotateRight (x : UInt32) (n : UInt32) : UInt32 := (x >>> n) ||| (x <<< (32 - n))

def bigSigma0 (x : UInt32) : UInt32 := rotateRight x 2 ^^^ rotateRight x 13 ^^^ rotateRight x 22
def bigSigma1 (x : UInt32) : UInt32 := rotateRight x 6 ^^^ rotateRight x 11 ^^^ rotateRight x 25
def sigma0 (x : UInt32) : UInt32 := rotateRight x 7 ^^^ rotateRight x 18 ^^^ (x >>> 3)
def sigma1 (x : UInt32) : UInt32 := rotateRight x 17 ^^^ rotateRight x 19 ^^^ (x >>> 10)

/-- The big-endian word at byte offset `i`; bytes past the end count as zero. -/
def wordAt (bytes : Array UInt8) (i : Nat) : UInt32 :=
  ((bytes.getD i 0).toUInt32 <<< 24) ||| ((bytes.getD (i + 1) 0).toUInt32 <<< 16) |||
    ((bytes.getD (i + 2) 0).toUInt32 <<< 8) ||| (bytes.getD (i + 3) 0).toUInt32

/-- The first `n` words of the schedule of the block at byte offset `start`. -/
def schedulePrefix (bytes : Array UInt8) (start : Nat) : (n : Nat) → Vector UInt32 n
  | 0 => #v[]
  | n + 1 =>
      let earlier := schedulePrefix bytes start n
      let word :=
        if h : n < 16 then wordAt bytes (start + 4 * n)
        else earlier[n - 16] + sigma0 earlier[n - 15] + earlier[n - 7] + sigma1 earlier[n - 2]
      earlier.push word

def round (schedule : Vector UInt32 64) (s : State) (i : Fin 64) : State :=
  let choice := (s.e &&& s.f) ^^^ (~~~s.e &&& s.g)
  let majority := (s.a &&& s.b) ^^^ (s.a &&& s.c) ^^^ (s.b &&& s.c)
  let t1 := s.h + bigSigma1 s.e + choice + roundConstants[i] + schedule[i]
  let t2 := bigSigma0 s.a + majority
  ⟨t1 + t2, s.a, s.b, s.c, s.d + t1, s.e, s.f, s.g⟩

def compress (bytes : Array UInt8) (s : State) (start : Nat) : State :=
  s.add ((List.finRange 64).foldl (round (schedulePrefix bytes start 64)) s)

def paddingZeros (size : Nat) : Nat := (119 - size % 64) % 64

/-- The message, the delimiter `0x80`, zeros, and the length in bits as eight bytes. -/
def pad (message : Bytes) : Bytes :=
  message ++ 0x80 :: List.replicate (paddingZeros message.length) 0 ++
    (ByteVector.bigEndian 8 (8 * message.length)).toList

def digest (s : State) : ByteVector 32 :=
  Vector.ofFn fun i => (s.words[i.val / 4] >>> UInt32.ofNat (8 * (3 - i.val % 4))).toUInt8

end Sha256

def sha256 (message : Bytes) : ByteVector 32 :=
  let padded := (Sha256.pad message).toArray
  Sha256.digest <| (List.range (padded.size / 64)).foldl
    (fun s i => Sha256.compress padded s (64 * i)) Sha256.State.initial

end BuilderRelay
