import BuilderRelay.Data.Bytes
import BuilderRelay.Text.Number
import BuilderRelay.Text.Quoted
import BuilderRelay.Text.Utf8
import BuilderRelay.Text.Whitespace

/-!
# Replies

The replies of a server, read from the bytes it sends and shown in diagnostics. A reply starts with a
byte for its kind and a line; what follows depends on them.
-/

namespace BuilderRelay.Redis

/-- An error that a server replies with: its code and what it says about it. -/
structure ServerError where
  code : String
  detail : Option String
  deriving DecidableEq, Repr

namespace ServerError

def knownCodes : List (String × String) := [
  ("ERR", "ResponseError"),
  ("EXECABORT", "ExecAbortError"),
  ("LOADING", "BusyLoadingError"),
  ("NOSCRIPT", "NoScriptError"),
  ("MOVED", "Moved"),
  ("ASK", "Ask"),
  ("TRYAGAIN", "TryAgain"),
  ("CLUSTERDOWN", "ClusterDown"),
  ("CROSSSLOT", "CrossSlot"),
  ("MASTERDOWN", "MasterDown"),
  ("READONLY", "ReadOnly"),
  ("NOTBUSY", "NotBusy")]

/-- The error of a line: the code ends at the first space. -/
def ofLine (line : String) : ServerError :=
  match line.toList.dropWhile (· ≠ ' ') with
  | [] => ⟨line, none⟩
  | _ :: detail => ⟨.ofList (line.toList.takeWhile (· ≠ ' ')), some (.ofList detail)⟩

def message (e : ServerError) : String :=
  match knownCodes.lookup e.code, e.detail with
  | some kind, some detail => s!"An error was signalled by the server - {kind}: {detail}"
  | some kind, none => s!"An error was signalled by the server- {kind}"
  | none, detail => e.code ++ ": " ++ detail.getD "Unknown extension error encountered"

end ServerError

inductive Reply where
  | null
  | okay
  | simple (text : String)
  | error (e : ServerError)
  | int (n : Int)
  | boolean (b : Bool)
  | bulk (bytes : Bytes)
  | array (items : List Reply)

namespace Reply

/-! ## Texts -/

def byteList (bytes : Bytes) : String :=
  "[" ++ ", ".intercalate (bytes.map fun b => toString b.toNat) ++ "]"

def debugText : Reply → String
  | null => "nil"
  | okay => "ok"
  | simple text => "simple-string(" ++ Text.quote text ++ ")"
  | error ⟨code, none⟩ => s!"Server error: `{code}`"
  | error ⟨code, some detail⟩ => s!"Server error: `{code}: {detail}`"
  | int n => s!"int({n})"
  | boolean b => s!"boolean({b})"
  | bulk bytes =>
      match Utf8.decode bytes with
      | some text => "bulk-string(\x27" ++ Text.quote text ++ "\x27)"
      | none => "binary-data(" ++ byteList bytes ++ ")"
  | array items => "array([" ++ ", ".intercalate (items.map debugText) ++ "])"

/-! ## Reading -/

inductive Fault where
  | incomplete
  | malformed
  deriving DecidableEq, Repr

def takeLine : Bytes → Except Fault (Bytes × Bytes)
  | 0x0d :: 0x0a :: rest => .ok ([], rest)
  | b :: rest => (takeLine rest).map fun (line, rest) => (b :: line, rest)
  | [] => .error .incomplete

def takeTextLine (bytes : Bytes) : Except Fault (String × Bytes) := do
  let (line, rest) ← takeLine bytes
  match Utf8.decode line with
  | some text => .ok (text, rest)
  | none => .error .malformed

def takeInt (bytes : Bytes) : Except Fault (Int × Bytes) := do
  let (line, rest) ← takeTextLine bytes
  match Text.readInt64 (Text.trim line) with
  | .ok n => .ok (n, rest)
  | .error _ => .error .malformed

/-- A number of bytes and the line end behind them; a negative number stands for nothing. -/
def takeBulk (bytes : Bytes) : Except Fault (Reply × Bytes) := do
  let (n, rest) ← takeInt bytes
  if n < 0 then return (.null, rest)
  else if rest.length < n.toNat then throw .incomplete
  else
    match rest.drop n.toNat with
    | 0x0d :: 0x0a :: tail => return (.bulk (rest.take n.toNat), tail)
    | 0x0d :: _ :: _ => throw .malformed
    | [0x0d] => throw .incomplete
    | [] => throw .incomplete
    | _ => throw .malformed

def takeMany (read : Bytes → Except Fault (Reply × Bytes)) :
    Nat → Bytes → Except Fault (List Reply × Bytes)
  | 0, bytes => .ok ([], bytes)
  | n + 1, bytes => do
      let (first, rest) ← read bytes
      let (others, rest) ← takeMany read n rest
      return (first :: others, rest)

/-- The first reply; `depth` bounds how deep lists lie in lists. -/
def take (depth : Nat) : Bytes → Except Fault (Reply × Bytes)
  | [] => .error .incomplete
  | kind :: rest =>
      if kind = 0x2b then (takeTextLine rest).map fun (text, rest) =>
        (if text = "OK" then .okay else .simple text, rest)
      else if kind = 0x2d then (takeTextLine rest).map fun (text, rest) =>
        (.error (.ofLine text), rest)
      else if kind = 0x3a then (takeInt rest).map fun (n, rest) => (.int n, rest)
      else if kind = 0x24 then takeBulk rest
      else if kind = 0x2a then
        match depth with
        | 0 => .error .malformed
        | depth + 1 => do
            let (n, rest) ← takeInt rest
            if n < 0 then return (.null, rest)
            let (items, rest) ← takeMany (take depth) n.toNat rest
            return (.array items, rest)
      else if kind = 0x5f then (takeLine rest).map fun (_, rest) => (.null, rest)
      else if kind = 0x23 then do
        let (text, rest) ← takeTextLine rest
        match text with
        | "t" => return (.boolean true, rest)
        | "f" => return (.boolean false, rest)
        | _ => throw .malformed
      else .error .malformed

def maxDepth : Nat := 100

/-- The reply that bytes start with. -/
def read (bytes : Bytes) : Except Fault Reply := (take maxDepth bytes).map (·.1)

end Reply

end BuilderRelay.Redis
