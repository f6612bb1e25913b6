import BuilderRelay.Beacon.TrialNode
import BuilderRelay.Program.Run
import BuilderRelay.Relay.Listen
import BuilderRelay.Text.QuotedBytes

/-!
# The program of the trial node

Takes its settings from the environment alone. The address comes from two variables that have to be
there; everything else has a default.
-/

namespace BuilderRelay.Program

abbrev Variables := String → Option Bytes

inductive VariableFault where
  | missing
  | notText (bytes : Bytes)
  deriving DecidableEq, Repr

def VariableFault.message : VariableFault → String
  | missing => "environment variable not found"
  | notText bytes => "environment variable was not valid unicode: " ++ Text.quoteBytes bytes

def readVariable (vars : Variables) (name : String) : Except VariableFault String :=
  match vars name with
  | none => .error .missing
  | some bytes =>
      match Utf8.decode bytes with
      | some text => .ok text
      | none => .error (.notText bytes)

def presentVariable (vars : Variables) (name : String) : Option String :=
  (readVariable vars name).toOption

def required (vars : Variables) (name : String) : Except Report String :=
  (readVariable vars name).mapError fun fault =>
    ⟨name ++ " environment variable not set", [fault.message]⟩

/-- A report on lines of their own; at most one cause is known. -/
def failureText (r : Report) : String :=
  match r.causes with
  | [] => "Error: " ++ r.headline
  | cause :: _ => s!"Error: {r.headline}\n\nCaused by:\n    {cause}"

structure TrialSettings where
  level : LogLevel
  address : String
  isSyncing : Bool
  deriving DecidableEq, Repr

def TrialSettings.read (vars : Variables) : Except Report TrialSettings := do
  let host ← required vars "BEACON_HOST"
  let port ← required vars "BEACON_PORT"
  let level := (LogLevel.read ((presentVariable vars "LOG_LEVEL").getD "info")).getD .info
  let isSyncing := (presentVariable vars "BEACON_SYNCING").any fun v => v = "true" || v = "1"
  return { level, address := host ++ ":" ++ port, isSyncing }

def rule : String := .ofList (List.replicate 50 '━')

def banner (s : TrialSettings) : List String := [
  "Mock Beacon Node Server",
  rule,
  "Listening on: " ++ s.address,
  s!"Syncing: {s.isSyncing}",
  rule,
  "Endpoint: GET /" ++ BeaconClient.syncingRoute]

/-- Serves until a signal comes. -/
def runTrialNode (s : TrialSettings) (host : String → Listening := Listening.onFreeHost) :
    ProgramRun :=
  let ready := ["Mock Beacon Node server ready"]
  let (ready, errorOutput, exitCode) :=
    match host s.address with
    | .unbound reason => ([], failureText reason, 1)
    | .failed reason => (ready, failureText reason, 1)
    | .stopped => (ready, "", 0)
  { format := .text
    level := s.level
    log := (banner s ++ ready).map fun message => ⟨.info, message, []⟩
    output := ""
    errorOutput, exitCode }

def trialNode (vars : Variables) (host : String → Listening := Listening.onFreeHost) :
    ProgramRun :=
  match TrialSettings.read vars with
  | .error r => .complaining (failureText r) 1
  | .ok s => runTrialNode s host

end BuilderRelay.Program
