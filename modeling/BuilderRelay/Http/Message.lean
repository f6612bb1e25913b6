import BuilderRelay.Text.Utf8
import BuilderRelay.Text.Whitespace

/-!
# HTTP messages

Requests as the router sees them, and the responses it gives. The headers of a response are in the
order of their names.
-/

namespace BuilderRelay.Http

structure Request where
  method : String
  target : String
  headers : List (String × String)
  body : Bytes
  deriving DecidableEq, Repr

/-- The first header of that name, in whatever case it is written. -/
def Request.header (name : String) (r : Request) : Option String :=
  (r.headers.find? (Text.asciiLower ·.1 = name)).map (·.2)

inductive Content where
  | empty
  | text (s : String)
  /-- A page of lines, whose length is not part of the response. -/
  | page (lines : List String)
  deriving DecidableEq, Repr

structure Response where
  status : Nat
  headers : List (String × String)
  content : Content
  deriving DecidableEq, Repr

namespace Response

def plainText : String × String := ("content-type", "text/plain; charset=utf-8")

def contentLength (n : Nat) : String × String := ("content-length", toString n)

def ofStatus (status : Nat) : Response := ⟨status, [contentLength 0], .empty⟩

def ofText (status : Nat) (text : String) : Response :=
  ⟨status, [contentLength (Utf8.encode text).length, plainText], .text text⟩

def ofPage (lines : List String) : Response := ⟨200, [plainText], .page lines⟩

def methodNotAllowed (allowed : String) : Response :=
  ⟨405, [("allow", allowed), contentLength 0], .empty⟩

def withoutContent (r : Response) : Response := { r with content := .empty }

end Response

end BuilderRelay.Http
