import Selectors.Attribute

namespace Selectors

/-- Moves matching to a related element. -/
inductive Combinator
  | child
  | parent
  | sibling
  | adjacent
  | descendant
  | column
  deriving DecidableEq

namespace Combinator

def all : List Combinator :=
  [.child, .parent, .sibling, .adjacent, .descendant, .column]

theorem mem_all (c : Combinator) : c ∈ all := by
  cases c <;> decide

def name : Combinator → String
  | .child => "child"
  | .parent => "parent"
  | .sibling => "sibling"
  | .adjacent => "adjacent"
  | .descendant => "descendant"
  | .column => "column-combinator"

end Combinator

mutual
/-- One part of a selector, in the order of the text. A namespace is absent or written before a
bar, and `*` as a namespace stands for any. -/
inductive Token
  | combinator (c : Combinator)
  | universal (ns : Option String)
  | tag (name : String) (ns : Option String)
  | pseudoElement (name : String)
  | pseudo (name : String) (argument : Argument)
  | attribute (a : Attribute)

/-- What a pseudo-class has in its parentheses, if it has them. -/
inductive Argument
  | absent
  | text (s : String)
  | selectors (list : List (List Token))
end

abbrev Sequence := List Token

abbrev SelectorList := List Sequence

namespace Token

/-- The token as the only content of `depth` pseudo-classes, one inside the other. -/
def nest (name : String) : Nat → Token → Token
  | 0, t => t
  | depth + 1, t => nest name depth (.pseudo name (.selectors [[t]]))

end Token

end Selectors
