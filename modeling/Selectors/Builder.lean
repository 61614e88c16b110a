import Selectors.Token.Basic

namespace Selectors

inductive Problem
  | noToken
  | wrongToken
  | nothingOpen
  deriving DecidableEq

def Problem.message : Problem → String
  | .noToken => "no token"
  | .wrongToken => "wrong token"
  | .nothingOpen => "nothing open"

namespace Token

def withNamespace (ns : String) : Token → Except Problem Token
  | .universal _ => .ok (.universal (some ns))
  | .tag name _ => .ok (.tag name (some ns))
  | .attribute a => .ok (.attribute { a with ns := some ns })
  | _ => .error .wrongToken

def withCaseMode (m : CaseMode) : Token → Except Problem Token
  | .attribute a => .ok (.attribute { a with caseMode := m })
  | _ => .error .wrongToken

def withArgument (argument : Argument) : Token → Except Problem Token
  | .pseudo name _ => .ok (.pseudo name argument)
  | _ => .error .wrongToken

end Token

namespace SelectorList

/-- The list with `t` behind its last sequence, which it gets if it has none. -/
def push (t : Token) (list : SelectorList) : SelectorList :=
  match list.getLast? with
  | none => [[t]]
  | some s => list.dropLast ++ [s ++ [t]]

/-- The list with what `f` gives in place of the last token of the last sequence. -/
def replaceLast (f : Token → Except Problem (List Token)) (list : SelectorList) :
    Except Problem SelectorList :=
  match list.getLast? with
  | none => .error .noToken
  | some s =>
    match s.getLast? with
    | none => .error .noToken
    | some t => do return list.dropLast ++ [s.dropLast ++ (← f t)]

def modifyLast (f : Token → Except Problem Token) : SelectorList → Except Problem SelectorList :=
  replaceLast fun t => do return [← f t]

def pop : SelectorList → Except Problem SelectorList :=
  replaceLast fun _ => .ok []

/-- A comma has a sequence on either side. -/
def comma (list : SelectorList) : SelectorList :=
  (if list = [] then [[]] else list) ++ [[]]

end SelectorList

inductive Step
  | token (t : Token)
  | universal
  | tag (name : String)
  | pseudoElement (name : String)
  | pseudo (name : String)
  | attribute (name : String) (action : Action) (value : String)
  | present (name : String)
  | id (value : String)
  | ofClass (value : String)
  | withNamespace (ns : String)
  | withCaseMode (m : CaseMode)
  | withArgument (s : String)
  | openList
  | closeList
  | comma
  | pop

/-- A list that is being written, and around it the lists whose last token waits for it. -/
structure Builder where
  current : SelectorList := []
  outer : List SelectorList := []

namespace Builder

def push (t : Token) (b : Builder) : Builder × Option Problem :=
  ({ b with current := SelectorList.push t b.current }, none)

def modify (f : SelectorList → Except Problem SelectorList) (b : Builder) :
    Builder × Option Problem :=
  match f b.current with
  | .ok list => ({ b with current := list }, none)
  | .error e => (b, some e)

/-- The finished list is the argument of the token that waits for it; without a fitting one it is
lost. -/
def closeList (b : Builder) : Builder × Option Problem :=
  match b.outer with
  | [] => (b, some .nothingOpen)
  | list :: outer =>
    modify (SelectorList.modifyLast (Token.withArgument (.selectors b.current)))
      { current := list, outer }

def step : Step → Builder → Builder × Option Problem
  | .token t, b => b.push t
  | .universal, b => b.push (.universal none)
  | .tag name, b => b.push (.tag name none)
  | .pseudoElement name, b => b.push (.pseudoElement name)
  | .pseudo name, b => b.push (.pseudo name .absent)
  | .attribute name action value, b => b.push (.attribute { name, action, value })
  | .present name, b => b.push (.attribute (.present name))
  | .id value, b => b.push (.attribute (.ofId value))
  | .ofClass value, b => b.push (.attribute (.ofClass value))
  | .withNamespace ns, b => b.modify (SelectorList.modifyLast (Token.withNamespace ns))
  | .withCaseMode m, b => b.modify (SelectorList.modifyLast (Token.withCaseMode m))
  | .withArgument s, b => b.modify (SelectorList.modifyLast (Token.withArgument (.text s)))
  | .openList, b => ({ current := [], outer := b.current :: b.outer }, none)
  | .closeList, b => b.closeList
  | .comma, b => ({ b with current := SelectorList.comma b.current }, none)
  | .pop, b => b.modify SelectorList.pop

end Builder

end Selectors
