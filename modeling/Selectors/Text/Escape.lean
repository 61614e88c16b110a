import Selectors.Text.CharClass
import Selectors.Text.Slice

namespace Selectors.CharClass

def escapeChar (C : CharClass) (c : Char) : List Char :=
  if C.contains c then ['\\', c] else [c]

def escape (C : CharClass) (text : String) : String :=
  String.ofList (text.toList.flatMap C.escapeChar)

/-- Strict reading of an escaped text: a backslash stands only before a member of the class,
and a member only behind a backslash. -/
def unescapeChars (C : CharClass) : List Char → Option (List Char)
  | [] => some []
  | ['\\'] => none
  | '\\' :: c :: cs => if C.contains c then (C.unescapeChars cs).map (c :: ·) else none
  | c :: cs => if C.contains c then none else (C.unescapeChars cs).map (c :: ·)

def unescape? (C : CharClass) (text : String) : Option String :=
  (C.unescapeChars text.toList).map String.ofList

/-- One pass over the characters of `text`: `here` is where the next one starts, and `copied` is
the end of what `out` covers. Runs without a member of the class are copied as one slice. -/
def escapeFrom (C : CharClass) (text : String) :
    List Char → (here copied : String.Pos.Raw) → (out : String) →
      Except BadRange (Option String)
  | [], _, copied, out =>
    if out.isEmpty then .ok none
    else do return some (out ++ (← slice text copied text.rawEndPos))
  | c :: cs, here, copied, out =>
    if C.contains c then do
      let run ← slice text copied here
      C.escapeFrom text cs (here + c) (here + c) (((out ++ run).push '\\').push c)
    else
      C.escapeFrom text cs (here + c) copied out

/-- The escaped text, or none where `text` has no member of the class and stands as it is. -/
def escapeRuns (C : CharClass) (text : String) : Except BadRange (Option String) :=
  C.escapeFrom text text.toList 0 0 ""

end Selectors.CharClass
