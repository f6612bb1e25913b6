import BuilderRelay.Url.Parse

/-!
# Writing addresses

The text of an address from its components. The longest run of zeros in an IPv6 address is left out.
-/

namespace BuilderRelay

namespace Host

def ipv4Text (address : Nat) : String :=
  ".".intercalate ([24, 16, 8, 0].map fun shift => toString (address >>> shift % 256))

def pieceText (n : Nat) : String := .ofList (Nat.toDigits 16 n)

def leadingZeros (pieces : List Nat) : Nat := (pieces.takeWhile (· = 0)).length

/-- The position and the length of the first of the longest runs of zeros. -/
def longestZeros : (i : Nat) → List Nat → Nat × Nat
  | _, [] => (0, 0)
  | i, piece :: rest =>
      let later := longestZeros (i + 1) rest
      let here := leadingZeros (piece :: rest)
      if here = 0 ∨ here < later.2 then later else (i, here)

def ipv6Text (pieces : List Nat) : String :=
  let (start, length) := longestZeros 0 pieces
  let join (pieces : List Nat) : String := ":".intercalate (pieces.map pieceText)
  if length < 2 then join pieces
  else join (pieces.take start) ++ "::" ++ join (pieces.drop (start + length))

def text : Host → String
  | domain name => name
  | ipv4 address => ipv4Text address
  | ipv6 pieces => "[" ++ ipv6Text pieces ++ "]"

end Host

namespace Url

def userinfoText (u : Url) : String :=
  match u.password with
  | some password => u.username ++ ":" ++ password ++ "@"
  | none => if u.username.isEmpty then "" else u.username ++ "@"

def portText (u : Url) : String :=
  match u.port with
  | some port => s!":{port}"
  | none => ""

def authorityText (u : Url) : String :=
  match u.host with
  | some host => "//" ++ u.userinfoText ++ host.text ++ u.portText
  | none => if u.scheme = "file" then "//" else ""

def markedText (mark : String) : Option String → String
  | some s => mark ++ s
  | none => ""

def text (u : Url) : String :=
  u.scheme ++ ":" ++ u.authorityText ++ u.path ++ markedText "?" u.query ++
    markedText "#" u.fragment

def withoutUserinfo (u : Url) : Url := { u with username := "", password := none }

end Url

end BuilderRelay
