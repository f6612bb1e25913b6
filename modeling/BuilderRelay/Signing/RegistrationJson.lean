import BuilderRelay.Hex
import BuilderRelay.Json.ByteField
import BuilderRelay.Json.Write
import BuilderRelay.Signing.Roots

/-!
# Registrations as JSON

Numbers are strings, byte fields are prefixed hexadecimal, and members come in a fixed order.
-/

namespace BuilderRelay

open Json (Reader Record Field)

def hexText {n : Nat} (v : ByteVector n) : String := Json.quoted (Hex.encodePrefixed v.toList)

namespace RegistrationMessage

def json (m : RegistrationMessage) : String := Json.object [
  ("fee_recipient", hexText m.feeRecipient),
  ("gas_limit", Json.quotedNumber m.gasLimit.toNat),
  ("timestamp", Json.quotedNumber m.timestamp.toNat),
  ("pubkey", hexText m.publicKey)]

structure Draft where
  feeRecipient : Option (ByteVector 20) := none
  gasLimit : Option UInt64 := none
  timestamp : Option UInt64 := none
  publicKey : Option Bls.PublicKey := none

def Draft.finish (d : Draft) : Except String RegistrationMessage :=
  match d.feeRecipient, d.gasLimit, d.timestamp, d.publicKey with
  | some feeRecipient, some gasLimit, some timestamp, some publicKey =>
      .ok { feeRecipient, gasLimit, timestamp, publicKey }
  | none, _, _, _ => .error "fee_recipient"
  | _, none, _, _ => .error "gas_limit"
  | _, _, none, _ => .error "timestamp"
  | _, _, _, none => .error "pubkey"

def record : Record Draft RegistrationMessage where
  name := "struct ValidatorRegistrationMessage"
  fields := [
    .of "fee_recipient" Draft.feeRecipient (fun v d => { d with feeRecipient := some v })
      (Reader.byteField 20),
    .of "gas_limit" Draft.gasLimit (fun v d => { d with gasLimit := some v }) Reader.quotedUInt64,
    .of "timestamp" Draft.timestamp (fun v d => { d with timestamp := some v }) Reader.quotedUInt64,
    .of "pubkey" Draft.publicKey (fun v d => { d with publicKey := some v }) (Reader.byteField 48)]
  initial := {}
  finish := Draft.finish

def reader : Reader RegistrationMessage := Reader.record record

end RegistrationMessage

namespace Registration

def json (r : Registration) : String := Json.object [
  ("message", r.message.json),
  ("signature", hexText r.signature)]

structure Draft where
  message : Option RegistrationMessage := none
  signature : Option Bls.Signature := none

def Draft.finish (d : Draft) : Except String Registration :=
  match d.message, d.signature with
  | some message, some signature => .ok { message, signature }
  | none, _ => .error "message"
  | _, none => .error "signature"

def record : Record Draft Registration where
  name := "struct ValidatorRegistration"
  fields := [
    .of "message" Draft.message (fun v d => { d with message := some v })
      RegistrationMessage.reader,
    .of "signature" Draft.signature (fun v d => { d with signature := some v })
      (Reader.byteField 96)]
  initial := {}
  finish := Draft.finish

def reader : Reader Registration := Reader.record record

def listReader : Reader (List Registration) := Reader.list reader

def listJson (rs : List Registration) : String := Json.array (rs.map json)

end Registration

end BuilderRelay
