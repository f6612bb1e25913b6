/-!
# Durations

Whole milliseconds in the shortest unit that diagnostics use for them.
-/

namespace BuilderRelay.Text

def milliFraction (ms : Nat) : String :=
  if ms = 0 then ""
  else
    let digits := Nat.toDigits 10 (1000 + ms)
    "." ++ .ofList ((digits.drop 1).reverse.dropWhile (· = '0')).reverse

/-- Nanoseconds for zero, milliseconds below a second, seconds from there on. -/
def duration (ms : Nat) : String :=
  if ms = 0 then "0ns"
  else if ms < 1000 then toString ms ++ "ms"
  else toString (ms / 1000) ++ milliFraction (ms % 1000) ++ "s"

end BuilderRelay.Text
