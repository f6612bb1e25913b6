import BuilderRelay.Relay.Route

/-!
# Metrics

Counters by label values, kept in the order of the values, and the page that shows them: families
by name, each with the counts of its label values in order. The page has no line that depends on
the time that requests take.
-/

namespace BuilderRelay

/-- Counts by label values; values that were never counted are not there. -/
abbrev Counter := List (List String × Nat)

namespace Counter

def increment (labels : List String) : Counter → Counter
  | [] => [(labels, 1)]
  | (other, n) :: rest =>
      if labels = other then (other, n + 1) :: rest
      else if labels < other then (labels, 1) :: (other, n) :: rest
      else (other, n) :: increment labels rest

def value (labels : List String) (c : Counter) : Nat := (c.lookup labels).getD 0

end Counter

structure Metrics where
  requests : Counter
  responses : Counter
  /-- How many latencies were observed. -/
  latencies : Counter
  registrations : Counter
  deriving DecidableEq, Repr

namespace Metrics

def empty : Metrics := ⟨[], [], [], []⟩

def endpointLabels (e : Endpoint) : List String := [e.pattern, e.method]

def start (e : Endpoint) (m : Metrics) : Metrics :=
  { m with requests := m.requests.increment (endpointLabels e) }

/-- Counts the response to a request and observes its latency. -/
def finish (e : Endpoint) (status : Nat) (m : Metrics) : Metrics :=
  { m with
    latencies := m.latencies.increment (endpointLabels e)
    responses := m.responses.increment (endpointLabels e ++ [toString status]) }

/-- What became of a registration. -/
inductive RegistrationOutcome where
  | stored
  | invalid
  deriving DecidableEq, Repr

def RegistrationOutcome.name : RegistrationOutcome → String
  | stored => "stored"
  | invalid => "invalid"

def countRegistration (o : RegistrationOutcome) (m : Metrics) : Metrics :=
  { m with registrations := m.registrations.increment [o.name] }

/-! ## The page -/

def familyStart : String := "relay_api_"

structure Family where
  name : String
  help : String
  histogram : Bool
  labels : List String
  counter : Metrics → Counter

def families : List Family := [
  ⟨"http_request_duration_seconds", "Request latency in seconds", true, ["endpoint", "method"],
    latencies⟩,
  ⟨"http_requests_total", "Total number of HTTP requests", false, ["endpoint", "method"], requests⟩,
  ⟨"http_responses_total", "Total number of HTTP responses by status", false,
    ["endpoint", "method", "status"], responses⟩,
  ⟨"validator_registrations_total", "Validator registrations processed by outcome", false,
    ["outcome"], registrations⟩]

def escapeLabelChar (c : Char) : List Char :=
  if c = '\\' then ['\\', '\\']
  else if c = '"' then ['\\', '"']
  else if c = '\n' then ['\\', 'n']
  else [c]

def labelText (name value : String) : String :=
  name ++ "=\"" ++ .ofList (value.toList.flatMap escapeLabelChar) ++ "\""

def sampleLine (name : String) (labels : List (String × String)) (n : Nat) : String :=
  name ++ "\x7b" ++ ",".intercalate (labels.map fun l => labelText l.1 l.2) ++ "\x7d " ++ toString n

/-- A counter has one line for its label values; a histogram has its last bucket and its count. -/
def Family.sampleLines (f : Family) (sample : List String × Nat) : List String :=
  let name := familyStart ++ f.name
  let labels := f.labels.zip sample.1
  if f.histogram then
    [sampleLine (name ++ "_bucket") (labels ++ [("le", "+Inf")]) sample.2,
      sampleLine (name ++ "_count") labels sample.2]
  else [sampleLine name labels sample.2]

/-- A family without samples has no lines at all. -/
def Family.lines (f : Family) (m : Metrics) : List String :=
  match f.counter m with
  | [] => []
  | samples =>
      let name := familyStart ++ f.name
      ("# HELP " ++ name ++ " " ++ f.help) ::
        ("# TYPE " ++ name ++ " " ++ if f.histogram then "histogram" else "counter") ::
        samples.flatMap f.sampleLines

def page (m : Metrics) : List String := families.flatMap (·.lines m)

end Metrics

end BuilderRelay
