/-!
# White space

The characters with the Unicode property `White_Space`, and trimming texts of them at both ends.
-/

namespace BuilderRelay.Text

def isWhiteSpace (c : Char) : Bool :=
  let n := c.toNat
  (0x9 ≤ n && n ≤ 0xd) || n == 0x20 || n == 0x85 || n == 0xa0 || n == 0x1680 ||
    (0x2000 ≤ n && n ≤ 0x200a) || n == 0x2028 || n == 0x2029 || n == 0x202f || n == 0x205f ||
    n == 0x3000

/-- The characters between the first and the last that satisfy `drop` at neither end. -/
def stripBoth {α : Type} (drop : α → Bool) (l : List α) : List α :=
  ((l.dropWhile drop).reverse.dropWhile drop).reverse

def trim (s : String) : String := .ofList (stripBoth isWhiteSpace s.toList)

def isBlank (s : String) : Bool := s.toList.all isWhiteSpace

/-- Upper-case ASCII letters become lower-case; everything else stays. -/
def asciiLower (s : String) : String := .ofList (s.toList.map Char.toLower)

end BuilderRelay.Text
