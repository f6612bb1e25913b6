import BuilderRelay.Beacon.Client
import BuilderRelay.Url.Write

/-!
# Requests without a network

What requests come to on a host that no network is connected to. Addresses of numbers are tried and
not reached; other names are not even found.
-/

namespace BuilderRelay.Offline

/-- Whether the number of a host is known. -/
def isKnown : Host → Bool
  | .domain name => name = "localhost"
  | _ => true

def connectFault (host : Host) : List String :=
  if isKnown host then ["tcp connect error", "Network is unreachable (os error 101)"]
  else ["dns error",
    "failed to lookup address information: Temporary failure in name resolution"]

def requestFault (url : Url) : List String :=
  let text := url.withoutUserinfo.text
  match url.scheme = "http" || url.scheme = "https", url.host with
  | true, some host =>
      [s!"error sending request for url ({text})", "client error (Connect)"] ++ connectFault host
  | _, _ => [s!"builder error for url ({text})", "URL scheme is not allowed"]

def get (url : String) : HttpOutcome :=
  let reason :=
    match readUrl url with
    | .error fault => ["builder error", fault.message]
    | .ok u => requestFault u
  .error ((Report.ofChain reason).context s!"Failed to send request to {url}")

end BuilderRelay.Offline
