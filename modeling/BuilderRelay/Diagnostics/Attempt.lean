import BuilderRelay.Diagnostics.Log
import BuilderRelay.Diagnostics.Report

/-!
# Attempts

A computation that may fail on the way, together with what others see of it: the calls it made and
the events it logged, in order, up to the point where it ended.
-/

namespace BuilderRelay

inductive ExternalCall where
  | get (url : String)
  | connect (uri : String)
  deriving DecidableEq, Repr

structure Attempt (ε α : Type) where
  calls : List ExternalCall
  log : List LogEvent
  result : Except ε α

namespace Attempt

variable {ε ε' α β : Type}

def require (result : Except ε α) : Attempt ε α := ⟨[], [], result⟩

def succeed (a : α) : Attempt ε α := require (.ok a)

def logged (event : LogEvent) : Attempt ε Unit := ⟨[], [event], .ok ()⟩

def called (call : ExternalCall) (result : Except ε α) : Attempt ε α := ⟨[call], [], result⟩

/-- A failure ends the attempt. -/
def andThen (x : Attempt ε α) (f : α → Attempt ε β) : Attempt ε β :=
  match x.result with
  | .error e => ⟨x.calls, x.log, .error e⟩
  | .ok a => ⟨x.calls ++ (f a).calls, x.log ++ (f a).log, (f a).result⟩

instance : Monad (Attempt ε) where
  pure := succeed
  bind := andThen

@[simp] theorem pure_eq (a : α) : (pure a : Attempt ε α) = ⟨[], [], .ok a⟩ := rfl

@[simp] theorem bind_eq (x : Attempt ε α) (f : α → Attempt ε β) : x >>= f = x.andThen f := rfl

@[simp] theorem andThen_error (calls : List ExternalCall) (log : List LogEvent) (e : ε)
    (f : α → Attempt ε β) :
    (⟨calls, log, .error e⟩ : Attempt ε α).andThen f = ⟨calls, log, .error e⟩ := rfl

@[simp] theorem andThen_ok (calls : List ExternalCall) (log : List LogEvent) (a : α)
    (f : α → Attempt ε β) :
    (⟨calls, log, .ok a⟩ : Attempt ε α).andThen f =
      ⟨calls ++ (f a).calls, log ++ (f a).log, (f a).result⟩ := rfl

theorem andThen_assoc {γ : Type} (x : Attempt ε α) (f : α → Attempt ε β) (g : β → Attempt ε γ) :
    (x.andThen f).andThen g = x.andThen fun a => (f a).andThen g := by
  cases hx : x.result with
  | error e => simp only [andThen, hx]
  | ok a => cases hf : (f a).result <;> simp [andThen, hx, hf]

def mapError (f : ε → ε') (x : Attempt ε α) : Attempt ε' α :=
  ⟨x.calls, x.log, x.result.mapError f⟩

def info (message : String) (fields : List (String × String)) : Attempt ε Unit :=
  logged ⟨.info, message, fields⟩

@[simp] theorem require_eq (result : Except ε α) : require result = ⟨[], [], result⟩ := rfl

@[simp] theorem called_eq (call : ExternalCall) (result : Except ε α) :
    called call result = ⟨[call], [], result⟩ := rfl

@[simp] theorem info_eq (message : String) (fields : List (String × String)) :
    (info message fields : Attempt ε Unit) = ⟨[], [⟨.info, message, fields⟩], .ok ()⟩ := rfl

@[simp] theorem mapError_eq (f : ε → ε') (calls : List ExternalCall) (log : List LogEvent)
    (result : Except ε α) :
    (⟨calls, log, result⟩ : Attempt ε α).mapError f = ⟨calls, log, result.mapError f⟩ := rfl

end Attempt

end BuilderRelay
