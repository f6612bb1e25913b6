import BuilderRelay.Data.Bytes
import BuilderRelay.Diagnostics.Report

/-!
# A hash cache that can fail

An in-memory cache of hashes: values by key and field. Each operation can be told to fail, at once
or after a number of successes, until it is healed. A failing operation changes nothing.
-/

namespace BuilderRelay

inductive CacheMethod where
  | hset
  | hget
  | hlen
  | ping
  deriving DecidableEq, Repr

/-- A call as the cache sees it, whether it succeeds or not. -/
inductive CacheCall where
  | hset (key field : String) (value : Bytes)
  | hget (key field : String)
  | hlen (key : String)
  | ping
  deriving DecidableEq, Repr

def CacheCall.method : CacheCall → CacheMethod
  | hset _ _ _ => .hset
  | hget _ _ => .hget
  | hlen _ => .hlen
  | ping => .ping

structure CacheEntry where
  key : String
  field : String
  value : Bytes
  deriving DecidableEq, Repr

/-- Failure after some more successes. -/
structure FailureScript where
  successes : Nat
  reason : Report
  deriving DecidableEq, Repr

abbrev FailureScripts := CacheMethod → Option FailureScript

namespace FailureScripts

def none : FailureScripts := fun _ => Option.none

/-- Makes a method fail, in place of what was scripted for it. -/
def fail (m : CacheMethod) (script : FailureScript) (s : FailureScripts) : FailureScripts :=
  fun n => if n = m then some script else s n

def heal (m : CacheMethod) (s : FailureScripts) : FailureScripts :=
  fun n => if n = m then Option.none else s n

/-- Lets one call through of a method, which uses up one of its scripted successes. -/
def permit (m : CacheMethod) (s : FailureScripts) : Except Report FailureScripts :=
  match s m with
  | Option.none => .ok s
  | some ⟨0, reason⟩ => .error reason
  | some ⟨n + 1, reason⟩ => .ok (s.fail m ⟨n, reason⟩)

end FailureScripts

structure Cache where
  entries : List CacheEntry
  script : FailureScripts

namespace Cache

def empty : Cache := ⟨[], .none⟩

def fail (m : CacheMethod) (script : FailureScript) (c : Cache) : Cache :=
  { c with script := c.script.fail m script }

def heal (m : CacheMethod) (c : Cache) : Cache := { c with script := c.script.heal m }

def isAt (key field : String) (e : CacheEntry) : Bool := e.key = key ∧ e.field = field

/-- The entries with the value of one of them replaced, or with one more at the end. -/
def put (key field : String) (value : Bytes) : List CacheEntry → List CacheEntry
  | [] => [⟨key, field, value⟩]
  | e :: rest =>
      if isAt key field e then ⟨key, field, value⟩ :: rest else e :: put key field value rest

def lookup (key field : String) (c : Cache) : Option Bytes :=
  (c.entries.find? (isAt key field)).map (·.value)

def store (key field : String) (value : Bytes) (c : Cache) : Cache :=
  { c with entries := put key field value c.entries }

def length (key : String) (c : Cache) : Nat := c.entries.countP (·.key = key)

structure Outcome (α : Type) where
  cache : Cache
  calls : List CacheCall
  result : Except Report α

/-- One call: `effect` acts on the cache that let it through. -/
def perform {α : Type} (call : CacheCall) (effect : Cache → Cache × α) (c : Cache) : Outcome α :=
  match c.script.permit call.method with
  | .error reason => ⟨c, [call], .error reason⟩
  | .ok script =>
      let (c, answer) := effect { c with script }
      ⟨c, [call], .ok answer⟩

def hset (key field : String) (value : Bytes) : Cache → Outcome Unit :=
  perform (.hset key field value) fun c => (c.store key field value, ())

def hget (key field : String) : Cache → Outcome (Option Bytes) :=
  perform (.hget key field) fun c => (c, c.lookup key field)

def hlen (key : String) : Cache → Outcome Nat :=
  perform (.hlen key) fun c => (c, c.length key)

def ping : Cache → Outcome Unit := perform .ping fun c => (c, ())

def Outcome.mapResult {α β : Type} (f : Except Report α → Except Report β) (o : Outcome α) :
    Outcome β :=
  ⟨o.cache, o.calls, f o.result⟩

/-- All entries, ordered by key and then by field. -/
def dump (c : Cache) : List CacheEntry :=
  c.entries.mergeSort fun a b => a.key < b.key || (a.key == b.key && a.field ≤ b.field)

end Cache

end BuilderRelay
