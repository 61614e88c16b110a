namespace Selectors

/-- The characters that take a backslash in some position, in the order they were listed. -/
structure CharClass where
  members : List Char
  deriving DecidableEq

namespace CharClass

def contains (C : CharClass) (c : Char) : Bool :=
  C.members.contains c

/-- Inside a double-quoted attribute value. -/
def attributeValue : CharClass :=
  ⟨['\\', '"']⟩

/-- Inside the text argument of a pseudo-class. -/
def pseudoValue : CharClass :=
  ⟨['\\', '"', '(', ')']⟩

/-- Inside an unquoted name. -/
def name : CharClass :=
  ⟨['\\', '"', '(', ')', '~', '^', '$', '*', '+', '!', '|', ':', '[', ']', ' ', '.']⟩

end CharClass

end Selectors
