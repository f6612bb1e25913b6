import BuilderRelay.Http.Target

/-!
# Routes

The paths that the relay serves and the method each of them takes. A route that takes GET takes HEAD
as well. The metrics page is there only if it is asked for.
-/

namespace BuilderRelay

/-- What requests are counted under. -/
inductive Endpoint where
  | status
  | registerValidators
  | getHeader
  deriving DecidableEq, Repr

namespace Endpoint

def pattern : Endpoint → String
  | status => "/eth/v1/builder/status"
  | registerValidators => "/eth/v1/builder/validators"
  | getHeader => "/eth/v1/builder/header/\x7bslot\x7d/\x7bparent_hash\x7d/\x7bpubkey\x7d"

def method : Endpoint → String
  | status => "GET"
  | registerValidators => "POST"
  | getHeader => "GET"

end Endpoint

structure HeaderPath where
  slot : List Char
  parentHash : List Char
  publicKey : List Char
  deriving DecidableEq, Repr

inductive Route where
  | status
  | registerValidators
  | getHeader (path : HeaderPath)
  | metrics
  deriving DecidableEq, Repr

namespace Route

def metricsPath : String := "/debug/metrics"

def headerStart : List (List Char) :=
  [[], "eth".toList, "v1".toList, "builder".toList, "header".toList]

/-- The parts behind the header route; only the last may not be empty. -/
def headerPath (path : List Char) : Option HeaderPath :=
  match Http.splitPath path with
  | [a, b, c, d, e, slot, parentHash, publicKey] =>
      if [a, b, c, d, e] = headerStart ∧ publicKey ≠ [] then some ⟨slot, parentHash, publicKey⟩
      else none
  | _ => none

def ofPath (withMetrics : Bool) (path : List Char) : Option Route :=
  if path = Endpoint.status.pattern.toList then some .status
  else if path = Endpoint.registerValidators.pattern.toList then some .registerValidators
  else if withMetrics ∧ path = metricsPath.toList then some .metrics
  else (headerPath path).map .getHeader

def method : Route → String
  | status => Endpoint.status.method
  | registerValidators => Endpoint.registerValidators.method
  | getHeader _ => Endpoint.getHeader.method
  | metrics => "GET"

def takes (r : Route) (method : String) : Bool :=
  method = r.method || (r.method = "GET" && method = "HEAD")

def allowed (r : Route) : String := if r.method = "GET" then "GET,HEAD" else r.method

end Route

end BuilderRelay
