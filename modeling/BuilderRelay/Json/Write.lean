/-!
# Writing JSON

Compact texts: no space, members in the order given, and in strings only the escapes that are
needed.
-/

namespace BuilderRelay.Json

def lowerDigit (n : Nat) : Char := (Nat.digitChar n).toLower

def escapeChar (c : Char) : List Char :=
  if c = '"' then ['\\', '"']
  else if c = '\\' then ['\\', '\\']
  else if c = '\n' then ['\\', 'n']
  else if c = '\r' then ['\\', 'r']
  else if c = '\t' then ['\\', 't']
  else if c = '\x08' then ['\\', 'b']
  else if c = '\x0c' then ['\\', 'f']
  else if c.toNat < 0x20 then
    ['\\', 'u', '0', '0', lowerDigit (c.toNat / 16), lowerDigit (c.toNat % 16)]
  else [c]

def quoted (s : String) : String := .ofList ('"' :: s.toList.flatMap escapeChar ++ ['"'])

def object (members : List (String × String)) : String :=
  "\x7b" ++ ",".intercalate (members.map fun m => quoted m.1 ++ ":" ++ m.2) ++ "\x7d"

def array (elements : List String) : String := "[" ++ ",".intercalate elements ++ "]"

def quotedNumber (n : Nat) : String := "\"" ++ toString n ++ "\""

def boolean (b : Bool) : String := if b then "true" else "false"

end BuilderRelay.Json
