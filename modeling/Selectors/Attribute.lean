namespace Selectors

/-- How the value of an attribute is compared with the one that is written. -/
inductive Action
  | equals
  | element
  | startsWith
  | endsWith
  | contains
  | differs
  | hyphen
  | present
  deriving DecidableEq

namespace Action

def all : List Action :=
  [.equals, .element, .startsWith, .endsWith, .contains, .differs, .hyphen, .present]

theorem mem_all (a : Action) : a ∈ all := by
  cases a <;> decide

def name : Action → String
  | .equals => "equals"
  | .element => "element"
  | .startsWith => "start"
  | .endsWith => "end"
  | .contains => "any"
  | .differs => "not"
  | .hyphen => "hyphen"
  | .present => "exists"

def ofName? (name : String) : Option Action :=
  all.find? (·.name == name)

theorem ofName?_name (a : Action) : ofName? a.name = some a := by
  cases a <;> decide

end Action

/-- The action is written without an equals sign, so nothing stands before one. -/
structure NoSymbol where
  action : Action
  deriving DecidableEq

def NoSymbol.message (e : NoSymbol) : String :=
  "attribute action `" ++ e.action.name ++ "` has no operator symbol"

/-- What stands between the name of an attribute and the equals sign. -/
def Action.symbol : Action → Except NoSymbol String
  | .equals => .ok ""
  | .element => .ok "~"
  | .startsWith => .ok "^"
  | .endsWith => .ok "$"
  | .contains => .ok "*"
  | .differs => .ok "!"
  | .hyphen => .ok "|"
  | .present => .error ⟨.present⟩

/-- The case flag behind a quoted value; without one the document language decides. -/
inductive CaseMode
  | insensitive
  | sensitive
  | unflagged
  deriving DecidableEq

namespace CaseMode

def name : CaseMode → String
  | .insensitive => "insensitive"
  | .sensitive => "sensitive"
  | .unflagged => "quirks"

def suffix : CaseMode → String
  | .insensitive => " i"
  | .sensitive => " s"
  | .unflagged => ""

end CaseMode

/-- The value of a `present` attribute is never written. -/
structure Attribute where
  name : String
  action : Action
  value : String := ""
  ns : Option String := none
  caseMode : CaseMode := .unflagged
  deriving DecidableEq

namespace Attribute

def present (name : String) : Attribute :=
  { name, action := .present }

def ofId (value : String) : Attribute :=
  { name := "id", action := .equals, value }

def ofClass (value : String) : Attribute :=
  { name := "class", action := .element, value }

/-- The mark that stands for the whole bracket: only a plain, unflagged `id` or `class`. -/
def shorthand? (a : Attribute) : Option String :=
  if a.ns = none ∧ a.caseMode = .unflagged then
    if a.name = "id" ∧ a.action = .equals then some "#"
    else if a.name = "class" ∧ a.action = .element then some "."
    else none
  else none

end Attribute

end Selectors
