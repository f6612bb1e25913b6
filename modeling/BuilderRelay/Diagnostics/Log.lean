import BuilderRelay.Text.Whitespace

/-!
# Log events

An event has a level, a message and named fields. Events are values: what a computation logs is
part of what it returns.
-/

namespace BuilderRelay

inductive LogLevel where
  | trace
  | debug
  | info
  | warn
  | error
  deriving DecidableEq, Repr

namespace LogLevel

def name : LogLevel → String
  | trace => "trace"
  | debug => "debug"
  | info => "info"
  | warn => "warn"
  | error => "error"

def upperName : LogLevel → String
  | trace => "TRACE"
  | debug => "DEBUG"
  | info => "INFO"
  | warn => "WARN"
  | error => "ERROR"

def severity : LogLevel → Nat
  | trace => 0
  | debug => 1
  | info => 2
  | warn => 3
  | error => 4

def shows (level event : LogLevel) : Bool := level.severity ≤ event.severity

/-- The level an operator names, whatever the case and the space around it; `none` when the name is
not known. Two names without a level of their own count as errors. -/
def read (text : String) : Option LogLevel :=
  match Text.asciiLower (Text.trim text) with
  | "trace" => some trace
  | "debug" => some debug
  | "info" => some info
  | "warn" => some warn
  | "warning" => some warn
  | "error" => some error
  | "fatal" => some error
  | "panic" => some error
  | _ => none

def unknownMessage (text : String) : String :=
  s!"unknown log level '{Text.asciiLower (Text.trim text)}'"

end LogLevel

structure LogEvent where
  level : LogLevel
  message : String
  fields : List (String × String)
  deriving DecidableEq, Repr

end BuilderRelay
