import BuilderRelay.Json.Skip

/-!
# Typed reading

A reader takes a value of its type from the front of the text. Values are read as they come, so a
misfit is reported before anything wrong further back. Inside a list or an object a misfit that
concerns the whole of it is placed after its closing bracket, if that is what comes next.

A reader fails at most once, but an element that is read only to be refused can fail quietly; the
path to the first such element is the one a later fault is blamed on.
-/

namespace BuilderRelay.Json

/-- What is left of the text, and the path that a fault will be blamed on whatever its own. -/
structure Cursor where
  rest : Bytes
  blamed : Option Path
  deriving DecidableEq, Repr

def Cursor.start (text : Bytes) : Cursor := ⟨text, none⟩

abbrev Reader (α : Type) := Cursor → Except Fault (α × Cursor)

variable {α β : Type}

namespace Reader

def fail (c : Cursor) (stop : Stop) : Except Fault α := .error ⟨stop, c.blamed.getD []⟩

def misfit (c : Cursor) (m : Misfit) (rest : Bytes) : Except Fault α :=
  fail c ⟨.misfit m, rest, false⟩

def lift (read : Bytes → Except Stop (α × Bytes)) : Reader α := fun c =>
  match read c.rest with
  | .ok (a, rest) => .ok (a, { c with rest })
  | .error stop => fail c stop

def map (f : α → β) (r : Reader α) : Reader β := fun c =>
  match r c with
  | .ok (a, c) => .ok (f a, c)
  | .error fault => .error fault

/-- A reader of a part of the value: what fails inside is blamed on the part. -/
def within (segment : Segment) (r : Reader α) : Reader α := fun c =>
  match r { c with blamed := none } with
  | .ok (a, d) => .ok (a, { d with blamed := c.blamed.or (d.blamed.map (segment :: ·)) })
  | .error fault => .error { fault with path := c.blamed.getD (segment :: fault.path) }

/-- Where a complaint about a whole list is placed: after its end, if its end comes next. -/
def pastSequence (rest : Bytes) : Bytes :=
  match skipBlank rest with
  | [] => []
  | b :: tail =>
      if b = 0x5d then tail
      else if b = 0x2c then skipBlank tail
      else b :: tail

def pastMap (rest : Bytes) : Bytes :=
  match skipBlank rest with
  | [] => []
  | b :: tail => if b = 0x7d then tail else b :: tail

def endSequence (rest : Bytes) : Except Stop Bytes :=
  match skipBlank rest with
  | [] => stoppedAhead .endOfList []
  | b :: tail =>
      if b = 0x5d then .ok tail
      else if b = 0x2c then
        match skipBlank tail with
        | [] => stoppedAhead .trailingCharacters []
        | c :: more =>
            stoppedAhead (if c = 0x5d then .trailingComma else .trailingCharacters) (c :: more)
      else stoppedAhead .trailingCharacters (b :: tail)

def endMap (rest : Bytes) : Except Stop Bytes :=
  match skipBlank rest with
  | [] => stoppedAhead .endOfObject []
  | b :: tail =>
      if b = 0x7d then .ok tail
      else if b = 0x2c then stoppedAhead .trailingComma (b :: tail)
      else stoppedAhead .trailingCharacters (b :: tail)

def nextElement (first : Bool) (rest : Bytes) : Except Stop (Option Bytes) :=
  match skipBlank rest with
  | [] => stoppedAhead .endOfList []
  | b :: tail =>
      if b = 0x5d then .ok none
      else if first then .ok (some (b :: tail))
      else if b = 0x2c then
        match skipBlank tail with
        | [] => stoppedAhead .endOfValue []
        | c :: more =>
            if c = 0x5d then stoppedAhead .trailingComma (c :: more) else .ok (some (c :: more))
      else stoppedAhead .expectedListCommaOrEnd (b :: tail)

def nextKey (first : Bool) (rest : Bytes) : Except Stop (Option (String × Bytes)) :=
  let key (tail : Bytes) : Except Stop (Option (String × Bytes)) := (readString tail).map some
  match skipBlank rest with
  | [] => stoppedAhead .endOfObject []
  | b :: tail =>
      if b = 0x7d then .ok none
      else if first then if b = 0x22 then key tail else stoppedAhead .keyNotString (b :: tail)
      else if b = 0x2c then
        match skipBlank tail with
        | [] => stoppedAhead .endOfValue []
        | c :: more =>
            if c = 0x22 then key more
            else if c = 0x7d then stoppedAhead .trailingComma (c :: more)
            else stoppedAhead .keyNotString (c :: more)
      else stoppedAhead .expectedObjectCommaOrEnd (b :: tail)

def colon (rest : Bytes) : Except Stop Bytes :=
  match skipBlank rest with
  | [] => stoppedAhead .endOfObject []
  | b :: tail => if b = 0x3a then .ok tail else stoppedAhead .expectedColon (b :: tail)

/-- A value of a type that is not the expected one, which is read as far as is needed to name it. -/
def unexpectedValue (expected : String) (b : UInt8) (tail : Bytes) : Except Stop α :=
  let literal (expectedBytes : Bytes) (found : Unexpected) : Except Stop α :=
    match readLiteral expectedBytes tail with
    | .ok rest => stopped (.misfit (.invalidType found expected)) rest
    | .error stop => .error stop
  let number (negative : Bool) (rest : Bytes) : Except Stop α :=
    match readNumber negative rest with
    | .ok (n, rest) => stopped (.misfit (.invalidType n.unexpected expected)) rest
    | .error stop => .error stop
  if b = 0x6e then literal afterN .null
  else if b = 0x74 then literal afterT (.boolean true)
  else if b = 0x66 then literal afterF (.boolean false)
  else if b = 0x2d then number true tail
  else if isDigit b then number false (b :: tail)
  else if b = 0x22 then
    match readString tail with
    | .ok (s, rest) => stopped (.misfit (.invalidType (.string s) expected)) rest
    | .error stop => .error stop
  else if b = 0x5b then stopped (.misfit (.invalidType .sequence expected)) (b :: tail)
  else if b = 0x7b then stopped (.misfit (.invalidType .map expected)) (b :: tail)
  else stoppedAhead .expectedValue (b :: tail)

def peek (rest : Bytes) : Except Stop (UInt8 × Bytes) :=
  match skipBlank rest with
  | [] => stoppedAhead .endOfValue []
  | b :: tail => .ok (b, tail)

def stringAs (convert : String → Except Misfit α) : Reader α := lift fun rest => do
  let (b, tail) ← peek rest
  if b = 0x22 then
    let (s, rest) ← readString tail
    match convert s with
    | .ok a => return (a, rest)
    | .error m => stopped (.misfit m) rest
  else unexpectedValue "a string" b tail

def string : Reader String := stringAs .ok

def boolean : Reader Bool := lift fun rest => do
  let (b, tail) ← peek rest
  if b = 0x74 then return (true, ← readLiteral afterT tail)
  else if b = 0x66 then return (false, ← readLiteral afterF tail)
  else unexpectedValue "a boolean" b tail

def unsigned (limit : Nat) (expected : String) : Reader Nat := lift fun rest => do
  let (b, tail) ← peek rest
  let check (read : Number × Bytes) : Except Stop (Nat × Bytes) :=
    match read with
    | (.unsigned n, rest) =>
        if n ≤ limit then .ok (n, rest)
        else stopped (.misfit (.invalidValue (.unsigned n) expected)) rest
    | (.negative n, rest) => stopped (.misfit (.invalidValue (.negative n) expected)) rest
    | (.float x, rest) => stopped (.misfit (.invalidType (.float x) expected)) rest
  if b = 0x2d then check (← readNumber true tail)
  else if isDigit b then check (← readNumber false (b :: tail))
  else unexpectedValue expected b tail

def uint64 : Reader UInt64 := map UInt64.ofNat (unsigned uint64Limit "u64")

def byte : Reader UInt8 := map UInt8.ofNat (unsigned 255 "u8")

/-! ## Lists -/

/-- The elements of a list up to its end, behind those in `acc`. -/
def elements (r : Reader α) (fuel : Bytes) (acc : List α) : Reader (List α) := fun c =>
  match nextElement acc.isEmpty c.rest with
  | .error stop => fail c stop
  | .ok none => .ok (acc.reverse, c)
  | .ok (some rest) =>
      match fuel with
      | [] => fail c ⟨.endOfList, rest, true⟩
      | _ :: fuel =>
          match within (.index acc.length) r { c with rest } with
          | .error fault => .error fault
          | .ok (a, c) => elements r fuel (a :: acc) c

def list (r : Reader α) : Reader (List α) := fun c =>
  match peek c.rest with
  | .error stop => fail c stop
  | .ok (b, tail) =>
      if b = 0x5b then
        match elements r tail [] { c with rest := tail } with
        | .error fault => .error fault
        | .ok (values, c) => lift (fun rest => (endSequence rest).map (values, ·)) c
      else
        match unexpectedValue "a sequence" b tail with
        | .error stop => fail c stop
        | .ok never => .ok never

end Reader

/-! ## Objects -/

structure Field (σ : Type) where
  name : String
  /-- Whether the member has been read already. -/
  isSet : σ → Bool
  /-- Whether a list that stands for the object may end before it. -/
  required : Bool
  read : σ → Reader σ

/-- A field whose value goes into one optional component of the partial result. -/
def Field.of {σ : Type} (name : String) (get : σ → Option α) (set : α → σ → σ) (r : Reader α)
    (required : Bool := true) : Field σ :=
  { name, required, isSet := fun s => (get s).isSome, read := fun s => r.map fun a => set a s }

/-- An object with the given fields; a list of their values stands for it as well. -/
structure Record (σ α : Type) where
  name : String
  fields : List (Field σ)
  initial : σ
  /-- The complete value, or the first field that is missing. -/
  finish : σ → Except String α

variable {σ : Type}

namespace Reader

def ignored (s : σ) : Reader σ := lift fun rest => (skipValue rest).map (s, ·)

def afterColon (r : Reader α) : Reader α := fun c =>
  match colon c.rest with
  | .error stop => fail c stop
  | .ok rest => r { c with rest }

def members (fields : List (Field σ)) (fuel : Bytes) (first : Bool) (s : σ) : Reader σ := fun c =>
  match nextKey first c.rest with
  | .error stop => .error ⟨stop, c.blamed.getD [.unknown]⟩
  | .ok none => .ok (s, c)
  | .ok (some (key, rest)) =>
      match fuel with
      | [] => fail c ⟨.endOfObject, rest, true⟩
      | _ :: fuel =>
          let value : Except Fault (σ × Cursor) :=
            match fields.find? (·.name = key) with
            | none => within (.key key) (afterColon (ignored s)) { c with rest }
            | some field =>
                if field.isSet s then misfit c (.duplicateField key) (pastMap rest)
                else within (.key key) (afterColon (field.read s)) { c with rest }
          match value with
          | .error fault => .error fault
          | .ok (s, c) => members fields fuel false s c

/-- The fields in order, as elements of a list that may be longer. -/
def positional (name : String) (count : Nat) :
    List (Field σ) → (i : Nat) → σ → Reader σ
  | [], _, s => fun c => .ok (s, c)
  | field :: fields, i, s => fun c =>
      match nextElement (i = 0) c.rest with
      | .error stop => fail c stop
      | .ok none =>
          if field.required then
            let elements := if count = 1 then " element" else " elements"
            misfit c (.invalidLength i s!"{name} with {count}{elements}") (pastSequence c.rest)
          else positional name count fields (i + 1) s c
      | .ok (some rest) =>
          match within (.index i) (field.read s) { c with rest } with
          | .error fault => .error fault
          | .ok (s, c) => positional name count fields (i + 1) s c

/-- The complete record, whose end is taken by `close`. -/
def conclude (r : Record σ α) (past : Bytes → Bytes) (close : Bytes → Except Stop Bytes) (s : σ) :
    Reader α := fun c =>
  match r.finish s with
  | .error name => misfit c (.missingField name) (past c.rest)
  | .ok a => lift (fun rest => (close rest).map (a, ·)) c

def record (r : Record σ α) : Reader α := fun c =>
  match peek c.rest with
  | .error stop => fail c stop
  | .ok (b, tail) =>
      if b = 0x5b then
        match positional r.name r.fields.length r.fields 0 r.initial { c with rest := tail } with
        | .error fault => .error fault
        | .ok (s, c) => conclude r pastSequence endSequence s c
      else if b = 0x7b then
        match members r.fields tail true r.initial { c with rest := tail } with
        | .error fault => .error fault
        | .ok (s, c) => conclude r pastMap endMap s c
      else
        match unexpectedValue r.name b tail with
        | .error stop => fail c stop
        | .ok never => .ok never

end Reader

/-- The value that the whole text is. Nothing but space may follow it. -/
def decode (r : Reader α) (text : Bytes) : Except Fault α :=
  match r (.start text) with
  | .error fault => .error fault
  | .ok (a, c) =>
      match skipBlank c.rest with
      | [] => .ok a
      | b :: tail => .error ⟨⟨.trailingCharacters, b :: tail, true⟩, []⟩

end BuilderRelay.Json
