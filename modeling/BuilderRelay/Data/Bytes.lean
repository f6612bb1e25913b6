/-!
# Byte strings

A byte string is a list of bytes. Where the format fixes the width, the width is part of the
type. Both big-endian and little-endian readings of a width are total: a number too large for the
width keeps its low bytes.
-/

namespace BuilderRelay

abbrev Bytes := List UInt8

abbrev ByteVector (n : Nat) := Vector UInt8 n

namespace ByteVector

/-- The bytes as a vector of width `n`, when that is how many there are. -/
def ofBytes? (n : Nat) (bytes : Bytes) : Option (ByteVector n) :=
  if h : bytes.length = n then some ⟨bytes.toArray, by simp [h]⟩ else none

theorem toList_of_ofBytes? {n : Nat} {bytes : Bytes} {v : ByteVector n}
    (h : ofBytes? n bytes = some v) : v.toList = bytes := by
  unfold ofBytes? at h
  split at h
  · cases h
    simp [Vector.toList]
  · cases h

@[simp] theorem ofBytes?_toList {n : Nat} (v : ByteVector n) : ofBytes? n v.toList = some v := by
  simp [ofBytes?, Vector.toList]

def fill (n : Nat) (b : UInt8) : ByteVector n := Vector.replicate n b

def zero (n : Nat) : ByteVector n := fill n 0

/-- The `n` low bytes of `value`, most significant first. -/
def bigEndian (n : Nat) (value : Nat) : ByteVector n :=
  Vector.ofFn fun i => UInt8.ofNat (value >>> (8 * (n - 1 - i.val)))

/-- The `n` low bytes of `value`, least significant first. -/
def littleEndian (n : Nat) (value : Nat) : ByteVector n :=
  Vector.ofFn fun i => UInt8.ofNat (value >>> (8 * i.val))

end ByteVector

namespace Bytes

def toNat (bytes : Bytes) : Nat :=
  bytes.foldl (fun n b => n * 256 + b.toNat) 0

end Bytes

end BuilderRelay
