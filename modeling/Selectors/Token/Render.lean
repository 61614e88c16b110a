import Selectors.Text.Escape
import Selectors.Token.Basic

namespace Selectors

/-- Stands for any namespace, and is the only one written without escaping. -/
def anyNamespace : String :=
  "*"

def renderNamespace : Option String → String
  | none => ""
  | some ns => (if ns = anyNamespace then anyNamespace else CharClass.name.escape ns) ++ "|"

def Combinator.render : Combinator → String
  | .child => " > "
  | .parent => " < "
  | .sibling => " ~ "
  | .adjacent => " + "
  | .descendant => " "
  | .column => " || "

def Attribute.condition (a : Attribute) : String :=
  match a.action.symbol with
  | .ok symbol =>
    symbol ++ "=\"" ++ CharClass.attributeValue.escape a.value ++ "\"" ++ a.caseMode.suffix
  | .error _ => ""

def Attribute.render (a : Attribute) : String :=
  match a.shorthand? with
  | some mark => mark ++ CharClass.name.escape a.value
  | none => "[" ++ renderNamespace a.ns ++ CharClass.name.escape a.name ++ a.condition ++ "]"

mutual
def Token.render : Token → String
  | .combinator c => c.render
  | .universal ns => renderNamespace ns ++ "*"
  | .tag name ns => renderNamespace ns ++ CharClass.name.escape name
  | .pseudoElement name => "::" ++ CharClass.name.escape name
  | .pseudo name argument => ":" ++ CharClass.name.escape name ++ argument.render
  | .attribute a => a.render

def Argument.render : Argument → String
  | .absent => ""
  | .text s => "(" ++ CharClass.pseudoValue.escape s ++ ")"
  | .selectors list => "(" ++ ", ".intercalate (renderSequences list) ++ ")"

def renderSequence : List Token → String
  | [] => ""
  | t :: s => t.render ++ renderSequence s

def renderSequences : List (List Token) → List String
  | [] => []
  | s :: l => renderSequence s :: renderSequences l
end

def renderList (list : SelectorList) : String :=
  ", ".intercalate (renderSequences list)

end Selectors
