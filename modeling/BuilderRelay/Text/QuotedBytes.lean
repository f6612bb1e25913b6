import BuilderRelay.Text.Quoted
import BuilderRelay.Text.Utf8
import BuilderRelay.Url.Percent

/-!
# Quoted byte strings

Bytes that should be a text, as diagnostics show them: what is text like a quoted text, with both
kinds of quotes escaped, and every other byte in hexadecimal.
-/

namespace BuilderRelay.Text

def escapeAnyQuote (c : Char) : List Char :=
  if c = '\x27' then ['\\', c] else escapeChar '"' c

def escapeByte (b : UInt8) : List Char :=
  ['\\', 'x', Percent.upperDigit (b.toNat / 16), Percent.upperDigit (b.toNat % 16)]

/-- The characters between the quotes; `skip` counts the bytes still to be passed over. -/
def escapeBytes (skip : Nat) : Bytes → List Char
  | [] => []
  | b :: rest =>
      match skip with
      | skip + 1 => escapeBytes skip rest
      | 0 =>
          match Utf8.firstSequence b rest with
          | (n, some c) => escapeAnyQuote c ++ escapeBytes (n - 1) rest
          | (n, none) => ((b :: rest).take n).flatMap escapeByte ++ escapeBytes (n - 1) rest

def quoteBytes (bytes : Bytes) : String := .ofList ('"' :: escapeBytes 0 bytes ++ ['"'])

end BuilderRelay.Text
