import BuilderRelay.Diagnostics.Log
import BuilderRelay.Diagnostics.Report
import BuilderRelay.Redis.Address
import BuilderRelay.Redis.Conversion
import BuilderRelay.Redis.Server
import BuilderRelay.Text.Duration

/-!
# The client

Connecting to a server and the hash operations of the relay over the connection. Setting up a
connection logs in, selects the database and introduces the client, in this order; the server has to
answer a ping before the connection is used.
-/

namespace BuilderRelay.Redis

structure Step (ε α : Type) where
  server : Server
  commands : List Command
  result : Except ε α

namespace Step

variable {ε ε' α β : Type}

def finish (s : Server) (result : Except ε α) : Step ε α := ⟨s, [], result⟩

def andThen (x : Step ε α) (f : Server → α → Step ε β) : Step ε β :=
  match x.result with
  | .error e => ⟨x.server, x.commands, .error e⟩
  | .ok a =>
      let y := f x.server a
      ⟨y.server, x.commands ++ y.commands, y.result⟩

def convert (f : Except ε α → Except ε' β) (x : Step ε α) : Step ε' β :=
  ⟨x.server, x.commands, f x.result⟩

end Step

/-- Sends a command and reads its reply. An error reply is a failure of the command. -/
def send (command : Command) (s : Server) : Step CommandFault Reply :=
  let (s, bytes) := s.answer command
  let result : Except CommandFault Reply :=
    match Reply.read bytes with
    | .ok (.error e) => .error (.refused e)
    | .ok reply => .ok reply
    | .error .incomplete => .error .unanswered
    | .error .malformed => .error .unreadable
  ⟨s, [command], result⟩

def request (words : List String) (s : Server) : Step CommandFault Reply :=
  send (.ofTexts words) s

/-! ## Setting up -/

inductive SetupFault where
  | refused
  | unanswered
  deriving DecidableEq, Repr

def SetupFault.ofCommand : CommandFault → SetupFault
  | .unanswered => .unanswered
  | _ => .refused

def demand (words : List String) (s : Server) : Step SetupFault Unit :=
  (request words s).convert fun
    | .ok .okay => .ok ()
    | .ok _ => .error .refused
    | .error fault => .error (.ofCommand fault)

def rejectsUsername (e : ServerError) : Bool :=
  Text.occurs "wrong number of arguments for 'auth' command".toList (e.detail.getD "").toList

/-- Logs in, without a name if the server does not know names. -/
def authenticate (username : Option String) (password : String) (s : Server) :
    Step SetupFault Unit :=
  let x := request (["AUTH"] ++ username.toList ++ [password]) s
  match x.result with
  | .ok .okay => x.convert fun _ => .ok ()
  | .ok _ => x.convert fun _ => .error .refused
  | .error (.refused e) =>
      if rejectsUsername e then
        let y := demand ["AUTH", password] x.server
        ⟨y.server, x.commands ++ y.commands, y.result⟩
      else x.convert fun _ => .error .refused
  | .error fault => x.convert fun _ => .error (.ofCommand fault)

def greet (a : Address) (s : Server) : Step SetupFault Unit :=
  let login :=
    match a.password with
    | none => []
    | some password => ["AUTH", a.username.getD "default", password]
  (request (["HELLO", "3"] ++ login) s).convert fun
    | .ok _ => .ok ()
    | .error fault => .error (.ofCommand fault)

def logIn (a : Address) (s : Server) : Step SetupFault Unit :=
  match a.protocol, a.password with
  | .resp3, _ => greet a s
  | .resp2, some password => authenticate a.username password s
  | .resp2, none => .finish s (.ok ())

def selectDatabase (n : Int) (s : Server) : Step SetupFault Unit :=
  if n = 0 then .finish s (.ok ()) else demand ["SELECT", toString n] s

/-- Introduces the client; only that there is an answer matters. -/
def introduce (s : Server) : Step SetupFault Unit :=
  (request ["CLIENT", "SETINFO"] s).convert fun
    | .error .unanswered => .error .unanswered
    | _ => .ok ()

def setUp (a : Address) (s : Server) : Step SetupFault Unit :=
  ((logIn a s).andThen fun s _ => selectDatabase a.database s).andThen fun s _ => introduce s

/-! ## Operations -/

def plainFault (fault : CommandFault) : Report := .plain fault.message

def ping (s : Server) : Step Report Unit :=
  (request ["PING"] s).convert fun result =>
    match result.bind Reply.toText with
    | .error fault => .error ((plainFault fault).context "Redis PING failed")
    | .ok "PONG" => .ok ()
    | .ok text => .error (.plain s!"Unexpected PING reply from redis: {text}")

def hset (key field : String) (value : Bytes) (s : Server) : Step Report Unit :=
  (send (.ofTexts ["HSET", key, field] ++ [value]) s).convert fun result =>
    (result.map fun _ => ()).mapError plainFault

def hget (key field : String) (s : Server) : Step Report (Option Bytes) :=
  (request ["HGET", key, field] s).convert fun result =>
    (result.bind Reply.toValue).mapError plainFault

def hlen (key : String) (s : Server) : Step Report UInt64 :=
  (request ["HLEN", key] s).convert fun result =>
    (result.bind Reply.toUInt64).mapError plainFault

/-! ## Connecting -/

/-- Where servers listen: at most one, behind a socket of the file system. -/
structure Listener where
  socket : Bytes
  server : Option Server
  deriving DecidableEq, Repr

/-- The server at a location. No network is there. -/
def Listener.at? (l : Listener) : Location → Option Server
  | .tcp _ _ => none
  | .socket path => if path = l.socket then l.server else none

structure Connection where
  commands : List Command
  result : Except Report Server

def SetupFault.report (timeoutMs : Nat) : SetupFault → Report
  | .refused => .plain "Failed to open redis connection"
  | .unanswered => .plain s!"Timed out after {Text.duration timeoutMs} connecting to redis"

/-- Sets up a connection to a server within the time limit, and pings. -/
def establish (timeoutMs : Nat) (a : Address) (s : Server) : Connection :=
  let x := ((setUp a s).convert fun r => r.mapError (SetupFault.report timeoutMs)).andThen
    fun s _ => ping s
  ⟨x.commands, x.result.map fun _ => x.server⟩

def connect (l : Listener) (timeoutMs : Nat) (uri : String) : Connection :=
  match Address.read uri with
  | .error _ => ⟨[], .error (.plain s!"Invalid redis uri '{uri}'")⟩
  | .ok a =>
      match l.at? a.location with
      | none => ⟨[], .error (.plain "Failed to open redis connection")⟩
      | some server => establish timeoutMs a server

def answeredEvent (uri : String) : LogEvent := ⟨.debug, "Redis answered PING", [("uri", uri)]⟩

end BuilderRelay.Redis
