import Mathlib.Data.Set.Defs
import Selectors.Token.Kind

namespace Selectors

/-- Consists of characters of `S`; the empty text does. -/
def Over (S : Set Char) (s : String) : Prop :=
  ∀ c ∈ s.toList, c ∈ S

def NamespaceOver (S : Set Char) : Option String → Prop
  | none => True
  | some ns => Over S ns

/-- A name that is written has some character, and only characters of `S`. -/
def NameOver (S : Set Char) (s : String) : Prop :=
  s ≠ "" ∧ Over S s

/-- A shorthand leaves out the name and writes the value without quotes; brackets do the
opposite. -/
def Attribute.Conforms (S : Set Char) (a : Attribute) : Prop :=
  a.name ≠ "" ∧
    match a.shorthand? with
    | some _ => Over S a.value
    | none => Over S a.name ∧ NamespaceOver S a.ns

/-- Stands for an element by itself, so that no other part may stand before it. -/
def Token.IsElement : Token → Prop
  | .universal _ | .tag _ _ => True
  | _ => False

mutual
/-- What is written without quotes has only characters of `S`, and exactly the pseudo-classes with
a name in `P` have a text as their argument. -/
def Token.Conforms (S : Set Char) (P : String → Prop) : Token → Prop
  | .combinator _ => True
  | .universal ns => NamespaceOver S ns
  | .tag name ns => NameOver S name ∧ NamespaceOver S ns
  | .pseudoElement name => NameOver S name
  | .pseudo name argument => NameOver S name ∧ argument.Conforms S P name
  | .attribute a => a.Conforms S

def Argument.Conforms (S : Set Char) (P : String → Prop) (name : String) : Argument → Prop
  | .absent => True
  | .text _ => P name
  | .selectors list => ¬ P name ∧ ListConforms S P list

/-- An element stands first, if `first` says that this is where the sequence starts, or directly
after a combinator. -/
def SequenceConforms (S : Set Char) (P : String → Prop) : (first : Bool) → List Token → Prop
  | _, [] => True
  | first, t :: s =>
    (t.IsElement → first) ∧ t.Conforms S P ∧ SequenceConforms S P t.kind.isTraversal s

def ListConforms (S : Set Char) (P : String → Prop) : List (List Token) → Prop
  | [] => True
  | s :: l => s ≠ [] ∧ SequenceConforms S P true s ∧ ListConforms S P l
end

/-- Without what is never written: the value and the case flag of a `present` attribute. -/
def Attribute.written (a : Attribute) : Attribute :=
  if a.action = .present then { a with value := "", caseMode := .unflagged } else a

mutual
def Token.written : Token → Token
  | .pseudo name argument => .pseudo name argument.written
  | .attribute a => .attribute a.written
  | t => t

def Argument.written : Argument → Argument
  | .selectors list => .selectors (writtenList list)
  | argument => argument

def writtenSequence : List Token → List Token
  | [] => []
  | t :: s => t.written :: writtenSequence s

def writtenList : List (List Token) → List (List Token)
  | [] => []
  | s :: l => writtenSequence s :: writtenList l
end

end Selectors
