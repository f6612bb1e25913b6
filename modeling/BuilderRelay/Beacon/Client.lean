import BuilderRelay.Beacon.ClientConfig
import BuilderRelay.Beacon.SyncStatus
import BuilderRelay.Diagnostics.Attempt
import BuilderRelay.Text.Utf8
import BuilderRelay.Url.Parse

/-!
# The beacon client

Asks a beacon node whether it is synced. A client is only made for an endpoint that is an address.
Asking is one request; its result depends on nothing but the response, and a node that still syncs
counts as a failure.
-/

namespace BuilderRelay

structure HttpResponse where
  status : Nat
  body : Bytes
  deriving DecidableEq, Repr

abbrev HttpOutcome := Except Report HttpResponse

inductive ClientFault where
  | blankEndpoint
  | invalidEndpoint (endpoint : String) (fault : UrlFault)
  | zeroTimeout
  deriving DecidableEq, Repr

def ClientFault.report : ClientFault → Report
  | .blankEndpoint => .plain "Beacon endpoint is not configured"
  | .invalidEndpoint endpoint fault => ⟨s!"Invalid beacon endpoint '{endpoint}'", [fault.message]⟩
  | .zeroTimeout => .plain "Request timeout must be greater than zero"

inductive SyncFault where
  | unreachable (url : String) (reason : Report)
  | refused (code : Nat) (body : Bytes)
  | unreadable (url : String) (body : Bytes) (fault : Json.Fault)
  | syncing (status : SyncStatus)
  deriving DecidableEq, Repr

def SyncFault.report : SyncFault → Report
  | .unreachable url reason => reason.context s!"Failed to send request to {url}"
  | .refused code body =>
      let text := (Utf8.decode body).getD "Unknown error"
      .plain s!"Beacon API request failed with status {code}: {text}"
  | .unreadable url body fault => ⟨s!"Failed to parse response from {url}", [fault.message body]⟩
  | .syncing status =>
      let slot := status.headSlot
      let distance := status.syncDistance
      .plain s!"Beacon node is syncing (head slot {slot}, sync distance {distance})"

structure BeaconClient where
  config : BeaconConfig
  deriving DecidableEq, Repr

namespace BeaconClient

def create (config : BeaconConfig) : Except ClientFault BeaconClient :=
  if Text.isBlank config.endpoint then .error .blankEndpoint
  else
    match readUrl config.endpoint with
    | .error fault => .error (.invalidEndpoint config.endpoint fault)
    | .ok _ => if config.requestTimeoutSecs = 0 then .error .zeroTimeout else .ok ⟨config⟩

def endpoint (c : BeaconClient) : String := c.config.endpoint

def syncingRoute : String := "eth/v1/node/syncing"

/-- The route below an endpoint, whether or not the endpoint ends with a slash. -/
def routeUrl (endpoint route : String) : String :=
  if endpoint.toList.getLast? = some '/' then endpoint ++ route else endpoint ++ "/" ++ route

def syncingUrl (c : BeaconClient) : String := routeUrl c.endpoint syncingRoute

/-- The status that a response reports, if it is one of a synced node. -/
def readStatus (url : String) (outcome : HttpOutcome) : Except SyncFault SyncStatus :=
  match outcome with
  | .error reason => .error (.unreachable url reason)
  | .ok response =>
      if response.status ≠ 200 then .error (.refused response.status response.body)
      else
        match Json.decode SyncStatus.responseReader response.body with
        | .error fault => .error (.unreadable url response.body fault)
        | .ok status => if status.isSyncing then .error (.syncing status) else .ok status

/-- Asks for the sync status once; `get` is what requests come to. -/
def syncStatus (get : String → HttpOutcome) (c : BeaconClient) : Attempt SyncFault SyncStatus := do
  .logged ⟨.debug, "Making beacon API request", [("url", c.syncingUrl)]⟩
  .called (.get c.syncingUrl) (readStatus c.syncingUrl (get c.syncingUrl))

def debugText (c : BeaconClient) : String :=
  "BeaconApiClient \x7b config: " ++ c.config.debugText ++ " \x7d"

end BeaconClient

end BuilderRelay
