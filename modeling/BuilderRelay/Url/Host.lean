import BuilderRelay.Url.Domain
import BuilderRelay.Url.Percent

/-!
# Hosts

The host of an address is a name, an IPv4 address or an IPv6 address. A name whose last label is a
number has to be an IPv4 address. Schemes that are not special have opaque names.
-/

namespace BuilderRelay

inductive Host where
  | domain (name : String)
  | ipv4 (address : Nat)
  | ipv6 (pieces : List Nat)
  deriving DecidableEq, Repr

inductive UrlFault where
  | emptyHost
  | invalidDomain
  | invalidPort
  | invalidIpv4
  | invalidIpv6
  | invalidDomainCharacter
  | relative
  deriving DecidableEq, Repr

def UrlFault.message : UrlFault → String
  | emptyHost => "empty host"
  | invalidDomain => "invalid international domain name"
  | invalidPort => "invalid port number"
  | invalidIpv4 => "invalid IPv4 address"
  | invalidIpv6 => "invalid IPv6 address"
  | invalidDomainCharacter => "invalid domain character"
  | relative => "relative URL without a base"

namespace Host

def hexValue (c : Char) : Option Nat :=
  if '0' ≤ c ∧ c ≤ '9' then some (c.toNat - 48)
  else if 'a' ≤ c ∧ c ≤ 'f' then some (c.toNat - 87)
  else if 'A' ≤ c ∧ c ≤ 'F' then some (c.toNat - 55)
  else none

/-- The value of digits of a base up to sixteen. -/
def numberIn (base : Nat) (digits : List Char) : Option Nat :=
  digits.foldlM (fun n c => do
    let d ← hexValue c
    if d < base then some (n * base + d) else none) 0

/-- A number in decimal, octal behind `0`, or hexadecimal behind `0x`. -/
def ipv4Number : List Char → Option Nat
  | [] => none
  | '0' :: 'x' :: rest => numberIn 16 rest
  | '0' :: 'X' :: rest => numberIn 16 rest
  | '0' :: c :: rest => numberIn 8 (c :: rest)
  | digits => numberIn 10 digits

/-- Whether the last label, or the one before it if that is empty, is a number. -/
def endsInNumber (name : List Char) : Bool :=
  let isNumber (label : List Char) : Bool :=
    (!label.isEmpty && label.all Char.isDigit) || (ipv4Number label).isSome
  match (Domain.splitLabels name).reverse with
  | [] :: label :: _ => isNumber label
  | [] :: _ => false
  | label :: _ => isNumber label
  | [] => false

/-- The address whose parts are given from the last; all but the last are single bytes. -/
def ipv4OfParts : List Nat → Option Nat
  | [] => none
  | last :: rest =>
      if last < Nat.pow 256 (4 - rest.length) ∧ rest.all (· < 256) then
        let high := rest.reverse.zipIdx.foldl (fun n part => n + part.1 * Nat.pow 256 (3 - part.2)) 0
        some (high + last)
      else none

def readIpv4 (name : List Char) : Except UrlFault Host :=
  let labels := (Domain.splitLabels name).reverse
  let labels := match labels with
    | [] :: rest => rest
    | labels => labels
  if 4 < labels.length then .error .invalidIpv4
  else
    match (labels.mapM ipv4Number).bind ipv4OfParts with
    | some address => .ok (.ipv4 address)
    | none => .error .invalidIpv4

def ipv4Byte (digits : List Char) : Option Nat :=
  if digits.isEmpty ∨ 3 < digits.length ∨ (1 < digits.length ∧ digits.head? = some '0') then none
  else (numberIn 10 digits).filter (· < 256)

def embeddedIpv4 (cs : List Char) : Option (List Nat) := do
  match ← (Domain.splitLabels cs).mapM ipv4Byte with
  | [a, b, c, d] => some [a * 256 + b, c * 256 + d]
  | _ => none

def ipv6Piece (digits : List Char) : Option Nat :=
  if digits.isEmpty ∨ 4 < digits.length then none else numberIn 16 digits

def splitColons (cs : List Char) : List (List Char) :=
  cs.foldr (fun c parts =>
    if c = ':' then [] :: parts
    else match parts with
      | part :: rest => (c :: part) :: rest
      | [] => [[c]]) [[]]

/-- Pieces from parts; the last part may be an IPv4 address if `last` says so. -/
def ipv6Pieces (last : Bool) : List (List Char) → Option (List Nat)
  | [] => some []
  | [part] => if last ∧ part.contains '.' then embeddedIpv4 part else (ipv6Piece part).map ([·])
  | part :: rest => do return (← ipv6Piece part) :: (← ipv6Pieces last rest)

/-- Parts before and after a double colon, which stands for at least one zero piece. -/
def compressedPieces (head tail : List (List Char)) : Option (List Nat) := do
  let before ← ipv6Pieces false head
  let after ← ipv6Pieces true tail
  let zeros := 8 - (before.length + after.length)
  if before.length + after.length < 8 then some (before ++ List.replicate zeros 0 ++ after)
  else none

/-- The pieces of an address whose double colon, if there is one, leaves empty parts. -/
def ipv6OfParts (parts : List (List Char)) : Option (List Nat) :=
  let head := parts.takeWhile (!·.isEmpty)
  match parts.dropWhile (!·.isEmpty) with
  | [] => (ipv6Pieces true parts).filter (·.length = 8)
  | _ :: rest =>
      match head, rest with
      | [], [[]] => none
      | [], [[], []] => compressedPieces [] []
      | [], [] :: tail => compressedPieces [] tail
      | [], _ => none
      | head, [[]] => compressedPieces head []
      | head, tail => if tail.isEmpty then none else compressedPieces head tail

def readIpv6 (cs : List Char) : Except UrlFault Host :=
  match ipv6OfParts (splitColons cs) with
  | some pieces => .ok (.ipv6 pieces)
  | none => .error .invalidIpv6

def bracketed (cs : List Char) : Except UrlFault Host :=
  if cs.getLast? = some ']' then readIpv6 ((cs.drop 1).dropLast) else .error .invalidIpv6

def read (cs : List Char) : Except UrlFault Host :=
  if cs.head? = some '[' then bracketed cs
  else
    match Domain.read (Percent.decode (Utf8.encode (.ofList cs))) with
    | none => .error .invalidDomain
    | some name =>
        if name.isEmpty then .error .emptyHost
        else if endsInNumber name then readIpv4 name
        else .ok (.domain (.ofList name))

def isForbidden (c : Char) : Bool :=
  ['\x00', '\t', '\n', '\r', ' ', '#', '/', ':', '<', '>', '?', '@', '[', '\\', ']', '^', '|'].contains c

def readOpaque (cs : List Char) : Except UrlFault Host :=
  if cs.head? = some '[' then bracketed cs
  else if cs.any isForbidden then .error .invalidDomainCharacter
  else .ok (.domain (.ofList (Percent.encode Percent.isControl cs)))

end Host

end BuilderRelay
