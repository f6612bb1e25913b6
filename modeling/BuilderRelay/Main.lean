import BuilderRelay.Program.Offline
import BuilderRelay.Program.Relay
import BuilderRelay.Program.TrialNode
import Std.Time.Format

/-!
# The executable

Runs the relay, or the trial node when the first argument names it. The executable opens no
sockets: its dependencies are those of a host without a network.
-/

namespace BuilderRelay.Executable

def variableNames : List String := [
  "BEACON_URI", "REDIS_URI", "LOG_LEVEL", "LOG_JSON", "GENESIS_FORK_VERSION", "BEACON_HOST",
  "BEACON_PORT", "BEACON_SYNCING"]

def readVariables : IO (List (String × Bytes)) := do
  let values ← variableNames.mapM fun name => return (name, ← IO.getEnv name)
  return values.filterMap fun (name, value) => value.map fun text => (name, Utf8.encode text)

def timeStamp : IO String := do
  let now ← Std.Time.Timestamp.now
  return (Std.Time.PlainDateTime.ofWallTime (now.toWallTime .zero)).format
    "uuuu-MM-dd'T'HH:mm:ss.SSSSSS'Z'"

def print (r : ProgramRun) : IO UInt32 := do
  IO.print r.output
  for e in r.shown do
    IO.println (e.stampedLine r.format (← timeStamp))
  if !r.errorOutput.isEmpty then IO.eprintln r.errorOutput
  return UInt32.ofNat r.exitCode

def run (arguments : List String) : IO UInt32 := do
  let values ← readVariables
  let vars (name : String) : Option Bytes := values.lookup name
  match arguments with
  | "beacon-mock" :: _ => print (Program.trialNode vars)
  | _ => print (Program.relay Bls.scheme Program.offline .terminate (arguments.map Utf8.encode)
      (.ofProcess vars))

end BuilderRelay.Executable

def main (arguments : List String) : IO UInt32 := BuilderRelay.Executable.run arguments
