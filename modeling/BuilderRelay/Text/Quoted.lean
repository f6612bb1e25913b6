import BuilderRelay.Text.Printable

/-!
# Quoted texts

Characters and texts as diagnostics show them: between quotes, with escapes for the quote itself,
the backslash and everything that would not be visible.
-/

namespace BuilderRelay.Text

def hexNumber (n : Nat) : List Char := Nat.toDigits 16 n

/-- A character between quotes of the kind `quote`. -/
def escapeChar (quote : Char) (c : Char) : List Char :=
  if c = '\x00' then ['\\', '0']
  else if c = '\t' then ['\\', 't']
  else if c = '\r' then ['\\', 'r']
  else if c = '\n' then ['\\', 'n']
  else if c = '\\' ∨ c = quote then ['\\', c]
  else if isPrintable c then [c]
  else ['\\', 'u', '\x7b'] ++ hexNumber c.toNat ++ ['\x7d']

def quoteChar (c : Char) : String := .ofList ('\x27' :: escapeChar '\x27' c ++ ['\x27'])

def quote (s : String) : String := .ofList ('"' :: s.toList.flatMap (escapeChar '"') ++ ['"'])

end BuilderRelay.Text
