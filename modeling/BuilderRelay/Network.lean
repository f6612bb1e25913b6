import BuilderRelay.Hex
import BuilderRelay.Text.Whitespace

/-!
# Networks

A network is known by name or by its genesis fork version. The fork version is what signatures are
bound to; the name is only for people.
-/

namespace BuilderRelay

structure ForkVersion where
  bytes : ByteVector 4
  deriving DecidableEq

namespace ForkVersion

inductive Fault where
  | hex (fault : Hex.Fault)
  | length (n : Nat)
  deriving DecidableEq, Repr

def Fault.message : Fault → String
  | .hex fault => fault.message
  | .length n => s!"genesis fork version must be 4 bytes, got {n}"

def read (text : String) : Except Fault ForkVersion :=
  match Hex.decodePrefixed text with
  | .error fault => .error (.hex fault)
  | .ok bytes =>
      match ByteVector.ofBytes? 4 bytes with
      | some version => .ok ⟨version⟩
      | none => .error (.length bytes.length)

def text (v : ForkVersion) : String := Hex.encodePrefixed v.bytes.toList

def mainnet : ForkVersion := ⟨#v[0x00, 0x00, 0x00, 0x00]⟩
def kiln : ForkVersion := ⟨#v[0x70, 0x00, 0x00, 0x69]⟩
def ropsten : ForkVersion := ⟨#v[0x80, 0x00, 0x00, 0x69]⟩
def sepolia : ForkVersion := ⟨#v[0x90, 0x00, 0x00, 0x69]⟩

end ForkVersion

inductive Network where
  | mainnet
  | kiln
  | ropsten
  | sepolia
  | custom (version : ForkVersion)
  deriving DecidableEq

namespace Network

/-- The networks known by name, in order of precedence. -/
def named : List Network := [mainnet, kiln, ropsten, sepolia]

def forkVersion : Network → ForkVersion
  | mainnet => .mainnet
  | kiln => .kiln
  | ropsten => .ropsten
  | sepolia => .sepolia
  | custom version => version

def name : Network → String
  | mainnet => "mainnet"
  | kiln => "kiln"
  | ropsten => "ropsten"
  | sepolia => "sepolia"
  | custom _ => "custom"

def text (n : Network) : String := s!"{n.name} ({n.forkVersion.text})"

end Network

end BuilderRelay
