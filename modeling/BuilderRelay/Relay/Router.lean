import BuilderRelay.Http.MediaType
import BuilderRelay.Http.Target
import BuilderRelay.Relay.Handlers
import BuilderRelay.Text.Number
import BuilderRelay.Url.Percent

/-!
# The router

Finds the route of a request, reads the input that its handler needs, and answers. A request that no
route takes, or whose input cannot be read, never reaches a handler and leaves everything as it was.
HEAD is answered like GET, without the content.
-/

namespace BuilderRelay.Relay

/-! ## Header paths -/

/-- A part of a path as text, if that is what it denotes. -/
def decodePart (part : List Char) : Option String :=
  Utf8.decode (Percent.decode (Utf8.encode (.ofList part)))

inductive PathFault where
  | notText (part : String)
  | badSlot (text : String)
  deriving DecidableEq, Repr

def PathFault.message : PathFault → String
  | .notText part => s!"Invalid URL: Invalid UTF-8 in `{part}`"
  | .badSlot text =>
      s!"Invalid URL: Cannot parse value at index 0 with value `{text}` to a `u64`"

def readHeaderPath (path : HeaderPath) : Except PathFault HeaderRequest :=
  match decodePart path.slot, decodePart path.parentHash, decodePart path.publicKey with
  | none, _, _ => .error (.notText "slot")
  | _, none, _ => .error (.notText "parent_hash")
  | _, _, none => .error (.notText "pubkey")
  | some slot, some parentHash, some publicKey =>
      match Text.readUInt64 slot with
      | .error _ => .error (.badSlot slot)
      | .ok slot => .ok { slot, parentHash, publicKey }

/-! ## Registration bodies -/

def bodyLimit : Nat := 2097152

inductive BodyFault where
  | notJson
  | tooLong
  | unreadable (body : Bytes) (fault : Json.Fault)
  deriving DecidableEq, Repr

/-- A body that is JSON but not of the right shape is told from one that is no JSON. -/
def BodyFault.response : BodyFault → Http.Response
  | .notJson => .ofText 415 "Expected request with `Content-Type: application/json`"
  | .tooLong => .ofText 413 "Failed to buffer the request body: length limit exceeded"
  | .unreadable body fault =>
      if fault.stop.cause.isMisfit then
        .ofText 422 ("Failed to deserialize the JSON body into the target type: " ++
          fault.messageWithPath body)
      else .ofText 400 ("Failed to parse the request body as JSON: " ++ fault.messageWithPath body)

def readRegistrations (r : Http.Request) : Except BodyFault (List Registration) :=
  if !(r.header "content-type").any Http.isJsonContent then .error .notJson
  else if bodyLimit < r.body.length then .error .tooLong
  else (Json.decode Registration.listReader r.body).mapError (.unreadable r.body)

/-! ## Requests -/

def refuse (response : Http.Response) (s : RelayState) : RelayState × Exchange :=
  (s, .ofResponse response)

def serve (bls : Bls.Scheme) (relay : Relay) (route : Route) (r : Http.Request) (s : RelayState) :
    RelayState × Exchange :=
  match route with
  | .status => handleStatus s
  | .metrics => refuse (.ofPage s.metrics.page) s
  | .registerValidators =>
      match readRegistrations r with
      | .error fault => refuse fault.response s
      | .ok registrations => handleRegistrations bls relay registrations s
  | .getHeader path =>
      match readHeaderPath path with
      | .error fault => refuse (.ofText 400 fault.message) s
      | .ok request => handleHeader relay request s

/-- The answer to a path that is not served; only one that is no path at all states its length. -/
def notFound (path : List Char) : Http.Response :=
  if path.head? = some '/' then ⟨404, [], .empty⟩ else .ofStatus 404

def dispatch (bls : Bls.Scheme) (relay : Relay) (r : Http.Request) (s : RelayState) :
    RelayState × Exchange :=
  let path := Http.targetPath r.target.toList
  match Route.ofPath relay.pprof path with
  | none => refuse (notFound path) s
  | some route =>
      if route.takes r.method then serve bls relay route r s
      else refuse (.methodNotAllowed route.allowed) s

def answer (bls : Bls.Scheme) (relay : Relay) (r : Http.Request) (s : RelayState) :
    RelayState × Exchange :=
  let (s, exchange) := dispatch bls relay r s
  if r.method = "HEAD" then
    (s, { exchange with response := exchange.response.withoutContent })
  else (s, exchange)

end BuilderRelay.Relay
