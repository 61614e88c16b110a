import Selectors.Json.Basic
import Selectors.Token.Kind

namespace Selectors

inductive Expected
  | sequence
  | string
  | token
  | kind
  | action
  | unit

/-- Why a value is not read. -/
inductive Refusal
  | mismatch (found : Shape) (expected : Expected)
  | unknownKind (name : String)
  | unknownAction (name : String)
  | missingField (name : String)
  | tooShort (count : Nat) (k : Kind)
  | tooLong (count : Nat) (k : Kind)
  | notOneKey
  | badArgument
  | badCaseMode

def Expected.text : Expected → String
  | .sequence => "a sequence"
  | .string => "a string"
  | .token => "internally tagged enum Selector"
  | .kind => "variant identifier"
  | .action => "string or map"
  | .unit => "unit"

def ticked (name : String) : String :=
  "`" ++ name ++ "`"

def unknownVariant (name : String) (known : List String) : String :=
  "unknown variant " ++ ticked name ++ ", expected one of " ++
    ", ".intercalate (known.map ticked)

namespace Kind

def recordName : Kind → String
  | .combinator c => c.name
  | .universal => "UniversalSelector"
  | .tag => "TagSelector"
  | .pseudoElement => "PseudoElementSelector"
  | .pseudo => "PseudoSelector"
  | .attribute => "AttributeSelector"

def elements (k : Kind) : String :=
  toString k.fields.length ++ if k.fields.length = 1 then " element" else " elements"

end Kind

def Refusal.message : Refusal → String
  | .mismatch found expected => "invalid type: " ++ found.text ++ ", expected " ++ expected.text
  | .unknownKind name => unknownVariant name (Kind.all.map Kind.name)
  | .unknownAction name => unknownVariant name (Action.all.map Action.name)
  | .missingField name => "missing field " ++ ticked name
  | .tooShort count k =>
    "invalid length " ++ toString count ++ ", expected struct " ++ k.recordName ++ " with " ++
      k.elements
  | .tooLong count k =>
    "invalid length " ++ toString count ++ ", expected " ++ k.elements ++ " in sequence"
  | .notOneKey => "invalid value: map, expected map with a single key"
  | .badArgument => "data did not match any variant of untagged enum PseudoData"
  | .badCaseMode => "data did not match any variant of untagged enum IgnoreCaseRepr"

end Selectors
