import BuilderRelay.Redis.Reply

/-!
# What replies stand for

Replies as texts, as counts and as stored values, where they can stand for them.
-/

namespace BuilderRelay.Redis

inductive CommandFault where
  | refused (e : ServerError)
  | incompatible (reason : String) (reply : Reply)
  | notText
  | unanswered
  | unreadable

def CommandFault.message : CommandFault → String
  | .refused e => e.message
  | .incompatible reason reply =>
      "Response was of incompatible type - TypeError: " ++ Text.quote reason ++ " (response was " ++
        reply.debugText ++ ")"
  | .notText => "Invalid UTF-8- TypeError"
  | .unanswered => "Multiplexed connection driver unexpectedly terminated"
  | .unreadable => "Parse error"

namespace Reply

def toText (r : Reply) : Except CommandFault String :=
  match r with
  | okay => .ok "OK"
  | simple text => .ok text
  | int n => .ok (toString n)
  | bulk bytes =>
      match Utf8.decode bytes with
      | some text => .ok text
      | none => .error .notText
  | r => .error (.incompatible "Response type not string compatible." r)

/-- A number of at most `limit`; an integer out of range is taken modulo the size of the range. -/
def toUnsigned (limit : Nat) (r : Reply) : Except CommandFault Nat :=
  let ofText (text : String) : Except CommandFault Nat :=
    (Text.readUnsigned limit text).mapError fun _ =>
      .incompatible "Could not convert from string." r
  match r with
  | int n => .ok (n % (limit + 1)).toNat
  | simple text => ofText text
  | bulk bytes =>
      match Utf8.decode bytes with
      | some text => ofText text
      | none => .error .notText
  | r => .error (.incompatible "Response type not convertible to numeric." r)

def toUInt64 (r : Reply) : Except CommandFault UInt64 :=
  (r.toUnsigned (UInt64.size - 1)).map UInt64.ofNat

def toByte (r : Reply) : Except CommandFault UInt8 := (r.toUnsigned 255).map UInt8.ofNat

/-- A stored value; null stands for none, and a list for the bytes it lists. -/
def toValue (r : Reply) : Except CommandFault (Option Bytes) :=
  match r with
  | null => .ok none
  | bulk bytes => .ok (some bytes)
  | array items => (items.mapM toByte).map some
  | r => .error (.incompatible "Response type not vector compatible." r)

end Reply

end BuilderRelay.Redis
