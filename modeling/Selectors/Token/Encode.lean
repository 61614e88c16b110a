import Selectors.Json.Basic
import Selectors.Token.Kind

namespace Selectors

def encodeOption : Option String → Json
  | none => .null
  | some s => .string s

def Action.encode (a : Action) : Json :=
  .string a.name

def CaseMode.encode : CaseMode → Json
  | .insensitive => .bool true
  | .sensitive => .bool false
  | .unflagged => .string "quirks"

def Attribute.fields (a : Attribute) : List (String × Json) :=
  [("name", .string a.name), ("action", a.action.encode), ("value", .string a.value),
    ("namespace", encodeOption a.ns), ("ignoreCase", a.caseMode.encode)]

def encodeObject (k : Kind) (fields : List (String × Json)) : Json :=
  .object (("type", .string k.name) :: fields)

mutual
/-- An object with all fields of the kind, also those that hold their default. -/
def Token.encode : Token → Json
  | .combinator c => encodeObject (.combinator c) []
  | .universal ns => encodeObject .universal [("namespace", encodeOption ns)]
  | .tag name ns => encodeObject .tag [("name", .string name), ("namespace", encodeOption ns)]
  | .pseudoElement name => encodeObject .pseudoElement [("name", .string name)]
  | .pseudo name argument =>
    encodeObject .pseudo [("name", .string name), ("data", argument.encode)]
  | .attribute a => encodeObject .attribute a.fields

def Argument.encode : Argument → Json
  | .absent => .null
  | .text s => .string s
  | .selectors list => .array (encodeSequences list)

def encodeSequence : List Token → List Json
  | [] => []
  | t :: s => t.encode :: encodeSequence s

def encodeSequences : List (List Token) → List Json
  | [] => []
  | s :: l => .array (encodeSequence s) :: encodeSequences l
end

def encodeList (list : SelectorList) : Json :=
  .array (encodeSequences list)

end Selectors
