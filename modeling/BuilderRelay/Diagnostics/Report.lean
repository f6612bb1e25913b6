/-!
# Reports

An error as people read it: what failed, and then why, each cause behind the one it explains.
-/

namespace BuilderRelay

structure Report where
  headline : String
  causes : List String
  deriving DecidableEq, Repr

namespace Report

def plain (text : String) : Report := ⟨text, []⟩

/-- The same trouble seen from further out. -/
def context (text : String) (r : Report) : Report := ⟨text, r.headline :: r.causes⟩

def chain (r : Report) : List String := r.headline :: r.causes

def message (r : Report) : String := ": ".intercalate r.chain

/-- The report with the given chain; an empty chain says nothing. -/
def ofChain : List String → Report
  | [] => plain ""
  | text :: causes => ⟨text, causes⟩

end Report

end BuilderRelay
