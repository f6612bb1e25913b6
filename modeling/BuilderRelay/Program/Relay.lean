import BuilderRelay.Program.Run
import BuilderRelay.Startup.Stages

/-!
# The relay program

Reads the command line and the environment, starts the relay and lets it serve. There is one exit
for every failure: it logs one error, and nothing is logged after it. Settings of the log are not
known when the configuration is wrong; then it is a text log of the usual level.
-/

namespace BuilderRelay.Program

def serviceName : String := "boost-relay"
def serviceVersion : String := "0.1.0"

def failureEvent (e : StartupError) : LogEvent :=
  ⟨.error, "Relay startup failed",
    [("stage", e.stage.name), ("kind", e.kind.name), ("error", e.message)]⟩

/-- The last event of a run and its exit code. -/
def ending : Except StartupError Unit → LogEvent × Nat
  | .ok () => (⟨.info, "Relay stopped", []⟩, 0)
  | .error e => (failureEvent e, 1)

def startAndServe (bls : Bls.Scheme) (d : Dependencies) (signal : StopSignal) (c : Config) :
    Attempt StartupError Unit := do
  let prepared ← Startup.prepare bls d c
  prepared.relay.listen signal d.listen

def runConfigured (bls : Bls.Scheme) (d : Dependencies) (signal : StopSignal) (c : Config) :
    ProgramRun :=
  let attempt := startAndServe bls d signal c
  let (last, exitCode) := ending attempt.result
  { format := if c.logJson then .json else .text
    level := c.logLevel
    log := ⟨.info, s!"{serviceName} {serviceVersion}", []⟩ :: attempt.log ++ [last]
    output := ""
    errorOutput := ""
    exitCode }

/-- A run that ends before the configuration is known. -/
def runUnconfigured (e : StartupError) : ProgramRun :=
  ⟨.text, .info, [failureEvent e], "", "", 1⟩

def runStopped (s : CommandLine.Stop) : ProgramRun :=
  if s.exitCode = 0 then .printing s.message 0 else .complaining s.message s.exitCode

def relay (bls : Bls.Scheme) (d : Dependencies) (signal : StopSignal) (arguments : List Bytes)
    (env : Environment) : ProgramRun :=
  match CommandLine.parse arguments with
  | .error stop => runStopped stop
  | .ok a =>
      match Config.resolve a env with
      | .error e => runUnconfigured e
      | .ok c => runConfigured bls d signal c

end BuilderRelay.Program
