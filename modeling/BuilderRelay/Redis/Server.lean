import BuilderRelay.Data.Bytes
import BuilderRelay.Text.Utf8

/-!
# A small server

A server that keeps hashes and knows the commands of the relay. It says that everything else went
well. Any command can be given a reply of its own, which takes the place of what the command does.
-/

namespace BuilderRelay.Redis

abbrev Command := List Bytes

def Command.ofTexts (words : List String) : Command := words.map Utf8.encode

structure HashEntry where
  key : Bytes
  field : Bytes
  value : Bytes
  deriving DecidableEq, Repr

structure Server where
  entries : List HashEntry
  /-- The replies of commands that have one of their own. -/
  script : List (String × Bytes)
  deriving DecidableEq, Repr

namespace Server

def start (script : List (String × Bytes)) : Server := ⟨[], script⟩

def isAt (key field : Bytes) (e : HashEntry) : Bool := e.key = key ∧ e.field = field

def put (key field value : Bytes) : List HashEntry → List HashEntry
  | [] => [⟨key, field, value⟩]
  | e :: rest =>
      if isAt key field e then ⟨key, field, value⟩ :: rest else e :: put key field value rest

def crlf : Bytes := [0x0d, 0x0a]

def line (kind : Char) (text : String) : Bytes := Utf8.encode (String.singleton kind ++ text) ++ crlf

def intReply (n : Nat) : Bytes := line ':' (toString n)

def bulkReply : Option Bytes → Bytes
  | none => line '$' "-1"
  | some value => line '$' (toString value.length) ++ value ++ crlf

/-- What a command does, and the bytes of its reply. -/
def perform (name : String) (arguments : List Bytes) (s : Server) : Server × Bytes :=
  match name, arguments with
  | "PING", _ => (s, line '+' "PONG")
  | "HSET", [key, field, value] =>
      let added := if s.entries.any (isAt key field) then 0 else 1
      ({ s with entries := put key field value s.entries }, intReply added)
  | "HGET", [key, field] => (s, bulkReply ((s.entries.find? (isAt key field)).map (·.value)))
  | "HLEN", [key] => (s, intReply (s.entries.countP (·.key = key)))
  | _, _ => (s, line '+' "OK")

def answer (command : Command) (s : Server) : Server × Bytes :=
  match command with
  | [] => (s, [])
  | name :: arguments =>
      let name := Utf8.decodeLossy name
      match s.script.lookup name with
      | some reply => (s, reply)
      | none => perform name arguments s

end Server

end BuilderRelay.Redis
