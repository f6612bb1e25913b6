/-!
# Namespaced keys

A cache key is a prefix and its parts, each part behind a colon.
-/

namespace BuilderRelay

def keyWithPrefix (head : String) (parts : List String) : String :=
  parts.foldl (fun key part => key ++ ":" ++ part) head

end BuilderRelay
