import BuilderRelay.Json.Reader
import BuilderRelay.Json.Write
import BuilderRelay.Text.Quoted

/-!
# Settings of the beacon client
-/

namespace BuilderRelay

open Json (Reader Record Field)

structure BeaconConfig where
  /-- The address of the node, such as `http://localhost:5052`. -/
  endpoint : String
  requestTimeoutSecs : UInt64
  deriving DecidableEq, Repr

namespace BeaconConfig

structure Draft where
  endpoint : Option String := none
  requestTimeoutSecs : Option UInt64 := none

def Draft.finish (d : Draft) : Except String BeaconConfig :=
  match d.endpoint, d.requestTimeoutSecs with
  | some endpoint, some requestTimeoutSecs => .ok { endpoint, requestTimeoutSecs }
  | none, _ => .error "endpoint"
  | _, none => .error "request_timeout_secs"

def record : Record Draft BeaconConfig where
  name := "struct BeaconApiConfig"
  fields := [
    .of "endpoint" Draft.endpoint (fun v d => { d with endpoint := some v }) Reader.string,
    .of "request_timeout_secs" Draft.requestTimeoutSecs
      (fun v d => { d with requestTimeoutSecs := some v }) Reader.uint64]
  initial := {}
  finish := Draft.finish

def reader : Reader BeaconConfig := Reader.record record

def json (c : BeaconConfig) : String := Json.object [
  ("endpoint", Json.quoted c.endpoint),
  ("request_timeout_secs", toString c.requestTimeoutSecs)]

def debugText (c : BeaconConfig) : String :=
  s!"BeaconApiConfig \x7b endpoint: {Text.quote c.endpoint}, request_timeout_secs: {c.requestTimeoutSecs} \x7d"

end BeaconConfig

end BuilderRelay
