import BuilderRelay.Diagnostics.Log
import BuilderRelay.Json.Write

/-!
# Runs of a program

What a run leaves behind: the events it logged, what it printed besides, and its exit code. Events
are written as lines of text or of JSON, if the level of the log shows them.
-/

namespace BuilderRelay

inductive LogFormat where
  | text
  | json
  deriving DecidableEq, Repr

structure ProgramRun where
  format : LogFormat
  level : LogLevel
  log : List LogEvent
  /-- What is printed without being logged. -/
  output : String
  errorOutput : String
  exitCode : Nat
  deriving DecidableEq, Repr

namespace LogEvent

def messageChar (c : Char) : List Char :=
  let n := c.toNat
  if n = 0x07 ∨ n = 0x08 ∨ n = 0x0c ∨ n = 0x1b ∨ n = 0x7f then
    ['\\', 'x', Json.lowerDigit (n / 16), Json.lowerDigit (n % 16)]
  else if 0x80 ≤ n ∧ n ≤ 0x9f then
    ['\\', 'u', '\x7b', Json.lowerDigit (n / 16), Json.lowerDigit (n % 16), '\x7d']
  else [c]

def text (e : LogEvent) : String :=
  " ".intercalate ([e.level.upperName, .ofList (e.message.toList.flatMap messageChar)] ++
    e.fields.map fun f => f.1 ++ "=" ++ f.2)

def members (e : LogEvent) : List (String × String) := [
  ("level", Json.quoted e.level.upperName),
  ("fields", Json.object ((("message", e.message) :: e.fields).map fun f =>
    (f.1, Json.quoted f.2)))]

def line (format : LogFormat) (e : LogEvent) : String :=
  match format with
  | .text => e.text
  | .json => Json.object e.members

/-- The event as a log writes it that says when it happened. Levels end in the same column. -/
def stampedLine (format : LogFormat) (time : String) (e : LogEvent) : String :=
  match format with
  | .text => time ++ (if e.level.upperName.length < 5 then "  " else " ") ++ e.text
  | .json => Json.object (("timestamp", Json.quoted time) :: e.members)

end LogEvent

/-- The lines of a text; a line end at the end of it starts no other. -/
def textLines (s : String) : List String :=
  match (s.splitOn "\n").reverse with
  | "" :: lines => lines.reverse
  | lines => lines.reverse

namespace ProgramRun

def printing (text : String) (exitCode : Nat) : ProgramRun :=
  ⟨.text, .info, [], text, "", exitCode⟩

def complaining (text : String) (exitCode : Nat) : ProgramRun :=
  ⟨.text, .info, [], "", text, exitCode⟩

def shown (r : ProgramRun) : List LogEvent := r.log.filter fun e => r.level.shows e.level

/-- Everything that is printed, without times. -/
def lines (r : ProgramRun) : List String :=
  textLines r.output ++ r.shown.flatMap fun e => textLines (e.line r.format)

end ProgramRun

end BuilderRelay
