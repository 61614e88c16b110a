import Selectors.Token.Basic

namespace Selectors

inductive Kind
  | combinator (c : Combinator)
  | universal
  | tag
  | pseudoElement
  | pseudo
  | attribute
  deriving DecidableEq

namespace Kind

def all : List Kind :=
  Combinator.all.map .combinator ++ [.universal, .tag, .pseudoElement, .pseudo, .attribute]

theorem mem_all (k : Kind) : k ∈ all := by
  cases k with
  | combinator c => cases c <;> decide
  | _ => decide

def name : Kind → String
  | .combinator c => c.name
  | .universal => "universal"
  | .tag => "tag"
  | .pseudoElement => "pseudo-element"
  | .pseudo => "pseudo"
  | .attribute => "attribute"

def ofName? (name : String) : Option Kind :=
  all.find? (·.name == name)

theorem ofName?_name (k : Kind) : ofName? k.name = some k := by
  cases k with
  | combinator c => cases c <;> decide
  | _ => decide

def ofIndex? (index : Int) : Option Kind :=
  if 0 ≤ index then all[index.toNat]? else none

/-- The fields of a written token, in their order; a `type` stands before them. -/
def fields : Kind → List String
  | .combinator _ => []
  | .universal => ["namespace"]
  | .tag => ["name", "namespace"]
  | .pseudoElement => ["name"]
  | .pseudo => ["name", "data"]
  | .attribute => ["name", "action", "value", "namespace", "ignoreCase"]

def isTraversal : Kind → Bool
  | .combinator _ => true
  | _ => false

end Kind

def Token.kind : Token → Kind
  | .combinator c => .combinator c
  | .universal _ => .universal
  | .tag _ _ => .tag
  | .pseudoElement _ => .pseudoElement
  | .pseudo _ _ => .pseudo
  | .attribute _ => .attribute

end Selectors
