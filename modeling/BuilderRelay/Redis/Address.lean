import BuilderRelay.Text.Number
import BuilderRelay.Text.Search
import BuilderRelay.Text.Whitespace
import BuilderRelay.Url.Parse
import BuilderRelay.Url.Query

/-!
# Addresses of Redis servers

A server is reached over TCP or through a socket in the file system. An address also says which
database is selected, who logs in, and which version of the protocol is spoken. A bare host stands
for an address over TCP.
-/

namespace BuilderRelay.Redis

inductive Protocol where
  | resp2
  | resp3
  deriving DecidableEq, Repr

inductive Location where
  | tcp (host : Host) (port : Nat)
  | socket (path : Bytes)
  deriving DecidableEq, Repr

structure Address where
  location : Location
  database : Int
  username : Option String
  password : Option String
  protocol : Protocol
  deriving DecidableEq, Repr

inductive AddressFault where
  | url (fault : UrlFault)
  | scheme
  | missingHost
  | encrypted
  | missingPath
  | database
  | credentials
  | protocol
  deriving DecidableEq, Repr

namespace Address

def defaultPort : Nat := 6379

def complete (uri : String) : String :=
  if Text.occurs "://".toList uri.toList then uri else "redis://" ++ uri

def readDatabase (text : String) : Except AddressFault Int :=
  (Text.readInt64 text).mapError fun _ => .database

def readProtocol (query : Option String) : Except AddressFault Protocol :=
  match Query.value? "protocol" query with
  | none => .ok .resp2
  | some "2" => .ok .resp2
  | some "resp2" => .ok .resp2
  | some "3" => .ok .resp3
  | some "resp3" => .ok .resp3
  | some _ => .error .protocol

def readCredential (text : String) : Except AddressFault String :=
  match Utf8.decode (Percent.decode (Utf8.encode text)) with
  | some s => .ok s
  | none => .error .credentials

def readOptional (text : Option String) : Except AddressFault (Option String) :=
  match text with
  | none => .ok none
  | some text => (readCredential text).map some

/-- The database is the path, whatever slashes are around it. -/
def ofTcp (url : Url) : Except AddressFault Address := do
  let host ← match url.host with
    | some host => .ok host
    | none => .error .missingHost
  let path := String.ofList (Text.stripBoth (· = '/') url.path.toList)
  let database ← if path.isEmpty then .ok 0 else readDatabase path
  let username ← readOptional (if url.username.isEmpty then none else some url.username)
  let password ← readOptional url.password
  let protocol ← readProtocol url.query
  return { location := .tcp host (url.port.getD defaultPort), database, username, password, protocol }

def isLocal : Option Host → Bool
  | none => true
  | some host => host = .domain "localhost"

/-- Everything but the path of the socket is in the query. -/
def ofSocket (url : Url) : Except AddressFault Address := do
  if !isLocal url.host ∨ url.opaquePath ∨ url.path.isEmpty then throw .missingPath
  let database ← match Query.value? "db" url.query with
    | none => .ok 0
    | some text => readDatabase text
  let protocol ← readProtocol url.query
  return {
    location := .socket (Percent.decode (Utf8.encode url.path))
    database, protocol
    username := Query.value? "user" url.query
    password := Query.value? "pass" url.query }

def read (uri : String) : Except AddressFault Address :=
  match readUrl (complete uri) with
  | .error fault => .error (.url fault)
  | .ok url =>
      match url.scheme with
      | "redis" => ofTcp url
      | "rediss" => .error .encrypted
      | "unix" => ofSocket url
      | "redis+unix" => ofSocket url
      | _ => .error .scheme

end Address

end BuilderRelay.Redis
