namespace Selectors

structure Warning where
  component : String
  message : String
  deriving DecidableEq

namespace Warning

/-- What makes two warnings the same one. -/
def key (w : Warning) : String :=
  "[" ++ w.component ++ "] " ++ w.message

/-- The warning in yellow, on a line of its own. -/
def line (w : Warning) : String :=
  "\x1b[33m[Cinder " ++ w.component ++ "] ⚠ " ++ w.message ++ "\x1b[39m\n"

def emptySequence (index : Nat) : Warning where
  component := "Selector"
  message := "empty selector sequence at index " ++ toString index ++ " of selector list"

end Warning

/-- The keys reported since the last `clear`, and the warnings printed since the last `flush`. -/
structure Reporter where
  recorded : List String := []
  printed : List Warning := []
  deriving DecidableEq

namespace Reporter

/-- Whether a report of `w` prints it. -/
def isNew (r : Reporter) (w : Warning) : Bool :=
  w.key ∉ r.recorded

def report (r : Reporter) (w : Warning) : Reporter :=
  if r.isNew w then { recorded := r.recorded ++ [w.key], printed := r.printed ++ [w] } else r

def clear (r : Reporter) : Reporter :=
  { r with recorded := [] }

def output (r : Reporter) : String :=
  String.join (r.printed.map Warning.line)

def flush (r : Reporter) : Reporter :=
  { r with printed := [] }

end Reporter

end Selectors
