import BuilderRelay.Relay.Service
import BuilderRelay.Startup.Error
import BuilderRelay.Text.Number

/-!
# Listening

What comes of listening at an address is up to the host that the relay runs on; the relay says what
it starts, and reports what fails. An address is a host and a port behind the last colon.
-/

namespace BuilderRelay

inductive ListenFault where
  | noPort
  | badPort
  deriving DecidableEq, Repr

def ListenFault.message : ListenFault → String
  | noPort => "invalid socket address"
  | badPort => "invalid port value"

def readListenAddr (address : String) : Except ListenFault (String × UInt16) :=
  let reversed := address.toList.reverse
  match reversed.dropWhile (· ≠ ':') with
  | [] => .error .noPort
  | _ :: host =>
      match Text.readUInt16 (.ofList (reversed.takeWhile (· ≠ ':')).reverse) with
      | .error _ => .error .badPort
      | .ok port => .ok (.ofList host.reverse, port)

/-- What comes of listening at an address, and of serving there once it is bound. -/
inductive Listening where
  | unbound (reason : Report)
  | failed (reason : Report)
  /-- A signal ended it. -/
  | stopped
  deriving DecidableEq, Repr

/-- Listening where every port is free and nothing but a signal ends serving: only an address that
is none cannot be bound. -/
def Listening.onFreeHost (address : String) : Listening :=
  match readListenAddr address with
  | .error fault => unbound (.plain fault.message)
  | .ok _ => stopped

inductive StopSignal where
  | interrupt
  | terminate
  deriving DecidableEq, Repr

def StopSignal.named? : String → Option StopSignal
  | "INT" => some interrupt
  | "TERM" => some terminate
  | _ => none

namespace Relay

/-- Serves until a signal ends it; which one makes no difference. -/
def listen (r : Relay) (_ : StopSignal) (host : String → Listening := Listening.onFreeHost) :
    Attempt StartupError Unit := do
  .info s!"Webserver starting on {r.listenAddr} ..." []
  match host r.listenAddr with
  | .unbound reason =>
      .require (.error (.serve (reason.context ("Failed to bind " ++ r.listenAddr))))
  | .failed reason =>
      .info "Webserver listening" [("addr", r.listenAddr)]
      .require (.error (.serve (reason.context "Webserver failed")))
  | .stopped =>
      .info "Webserver listening" [("addr", r.listenAddr)]
      .info "Shutdown signal received, stopping webserver" []

end Relay

end BuilderRelay
