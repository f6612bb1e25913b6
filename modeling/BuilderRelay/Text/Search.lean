/-!
# Finding texts in texts
-/

namespace BuilderRelay.Text

def occurs (part : List Char) : List Char → Bool
  | [] => part.isEmpty
  | c :: rest => part.isPrefixOf (c :: rest) || occurs part rest

end BuilderRelay.Text
