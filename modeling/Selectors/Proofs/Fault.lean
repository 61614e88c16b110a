import Mathlib.Data.String.Basic
import Selectors.Proofs.Grammar

namespace Selectors

set_option autoImplicit true

/-- Something that may be wrong with a value: it holds of its message, and of nothing where it is
absent. -/
abbrev Fault := String → Prop

def Fault.Absent (F : Fault) : Prop :=
  ∀ m, ¬ F m

/-- The first fault in the order of the list that is not absent. -/
inductive FirstOf : List Fault → Fault
  | here (h : F m) : FirstOf (F :: Fs) m
  | later (hF : F.Absent) (h : FirstOf Fs m) : FirstOf (F :: Fs) m

/-- What a message says was found. -/
def Json.found : Json → String
  | .null => "null"
  | .bool b => "boolean `" ++ (if b then "true" else "false") ++ "`"
  | .integer n => "integer `" ++ toString n ++ "`"
  | .real x => "floating point `" ++ floatText x ++ "`"
  | .string s => "string " ++ quoted s
  | .array _ => "sequence"
  | .object _ => "map"

def invalidType (v : Json) (expected : String) : String :=
  "invalid type: " ++ v.found ++ ", expected " ++ expected

def missingField (key : String) : String :=
  "missing field `" ++ key ++ "`"

def unknownAction (name : String) : String :=
  "unknown variant `" ++ name ++ "`, expected one of " ++
    "`equals`, `element`, `start`, `end`, `any`, `not`, `hyphen`, `exists`"

def unknownKind (name : String) : String :=
  "unknown variant `" ++ name ++ "`, expected one of " ++
    ("`child`, `parent`, `sibling`, `adjacent`, `descendant`, `column-combinator`, " ++
      "`universal`, `tag`, `pseudo-element`, `pseudo`, `attribute`")

/-- The value denotes nothing. -/
inductive Unreadable (R : Json → α → Prop) (v : Json) (message : String) : Fault
  | none (h : ∀ x, ¬ R v x) : Unreadable R v message message

inductive ActionFault : Json → Fault
  | name (h : ∀ a : Action, name ≠ a.name) :
      ActionFault (.string name) (unknownAction name)
  | key (h : ∀ a : Action, name ≠ a.name) :
      ActionFault (.object [(name, v)]) (unknownAction name)
  | unit (a : Action) (hnull : v ≠ .null) (hempty : v ≠ .object []) :
      ActionFault (.object [(a.name, v)]) (invalidType v "unit")
  | keys (h : fields.length ≠ 1) :
      ActionFault (.object fields) "invalid value: map, expected map with a single key"
  | shape (hstring : ∀ s, v ≠ .string s) (hobject : ∀ fields, v ≠ .object fields) :
      ActionFault v (invalidType v "string or map")

/-- What may be wrong with the value of a field. All that may be wrong inside the data of a
pseudo-class, however deep, is one fault with one message. -/
def FieldFault (key : String) (v : Json) : Fault :=
  match key with
  | "action" => ActionFault v
  | "ignoreCase" =>
    Unreadable DenotesCaseMode v "data did not match any variant of untagged enum IgnoreCaseRepr"
  | "data" =>
    Unreadable DenotesArgument v "data did not match any variant of untagged enum PseudoData"
  | "namespace" => Unreadable DenotesNamespace v (invalidType v "a string")
  | _ => Unreadable DenotesString v (invalidType v "a string")

section Fields

variable (field : String → Option Json)

/-- The field is there and something is wrong with its value. -/
inductive Refused (key : String) : Fault
  | present (hv : field key = some v) (h : FieldFault key v m) : Refused key m

inductive Missing (key : String) : Fault
  | absent (h : field key = none) : Missing key (missingField key)

/-- The refused field whose name has the least bytes. All names are ASCII, so that characters are
in the order of their bytes. -/
inductive LeastRefused (keys : List String) : Fault
  | least (hkey : key ∈ keys) (h : Refused field key m)
      (hleast : ∀ other ∈ keys, other < key → (Refused field other).Absent) : LeastRefused keys m

end Fields

/-- The fields without a default. -/
def Kind.requiredFields (k : Kind) : List String :=
  k.fields.filter (· ∈ ["name", "action"])

/-- What an array without a required field should have been. -/
inductive Kind.Record : Kind → String → Prop
  | tag : Record .tag "struct TagSelector with 2 elements"
  | pseudoElement : Record .pseudoElement "struct PseudoElementSelector with 1 element"
  | pseudo : Record .pseudo "struct PseudoSelector with 2 elements"
  | attribute : Record .attribute "struct AttributeSelector with 5 elements"

/-- What an array with too many items should have been. -/
inductive Kind.Items : Kind → String → Prop
  | combinator (c : Combinator) : Items (.combinator c) "0 elements in sequence"
  | universal : Items .universal "1 element in sequence"
  | tag : Items .tag "2 elements in sequence"
  | pseudoElement : Items .pseudoElement "1 element in sequence"
  | pseudo : Items .pseudo "2 elements in sequence"
  | attribute : Items .attribute "5 elements in sequence"

def invalidLength (items : List Json) (expected : String) : String :=
  "invalid length " ++ toString items.length ++ ", expected " ++ expected

/-- What may be wrong at the position of a field. -/
inductive ItemFault (k : Kind) (items : List Json) (key : String) : Fault
  | refused (h : Refused (fun key => items[k.fields.idxOf key]?) key m) : ItemFault k items key m
  | missing (hkey : key ∈ k.requiredFields) (hk : k.Record expected)
      (h : items[k.fields.idxOf key]? = none) : ItemFault k items key (invalidLength items expected)

inductive Surplus (k : Kind) (items : List Json) : Fault
  | items (hk : k.Items expected) (h : k.fields.length < items.length) :
      Surplus k items (invalidLength items expected)

inductive TagFault : Json → Fault
  | shape (h : ∀ s, v ≠ .string s) : TagFault v (invalidType v "variant identifier")
  | unknown (h : ∀ k : Kind, name ≠ k.name) :
      TagFault (.string name) (unknownKind name)

/-- What is wrong with a token first. Its shape and its tag come before all of its fields; then an
object has its fields in the order of their names, and what is missing after that, and an array
has its items in their order, and what is too much after that. -/
inductive TokenFault : Json → Fault
  | shape (hobject : ∀ fields, v ≠ .object fields) (harray : ∀ items, v ≠ .array items) :
      TokenFault v (invalidType v "internally tagged enum Selector")
  | untagged (h : fields.lookup "type" = none) :
      TokenFault (.object fields) (missingField "type")
  | empty : TokenFault (.array []) (missingField "type")
  | tag (htag : fields.lookup "type" = some tag) (h : TagFault tag m) :
      TokenFault (.object fields) m
  | firstItem (h : TagFault tag m) : TokenFault (.array (tag :: items)) m
  | field (htag : Required (DenotesKind .strict) (fields.lookup "type") k)
      (h : LeastRefused (fun key => fields.lookup key) k.fields m) : TokenFault (.object fields) m
  | missing (htag : Required (DenotesKind .strict) (fields.lookup "type") k)
      (hfields : ∀ key ∈ k.fields, (Refused (fun key => fields.lookup key) key).Absent)
      (h : FirstOf (k.requiredFields.map (Missing fun key => fields.lookup key)) m) :
      TokenFault (.object fields) m
  | item (htag : DenotesKind .strict tag k) (h : FirstOf (k.fields.map (ItemFault k items)) m) :
      TokenFault (.array (tag :: items)) m
  | surplus (htag : DenotesKind .strict tag k)
      (hitems : ∀ key ∈ k.fields, (ItemFault k items key).Absent) (h : Surplus k items m) :
      TokenFault (.array (tag :: items)) m

/-- What is wrong with an array first: it is none, or one of its items has a fault. -/
inductive ArrayFault (F : Json → Fault) : Json → Fault
  | shape (h : ∀ items, v ≠ .array items) : ArrayFault F v (invalidType v "a sequence")
  | item (h : FirstOf (items.map F) m) : ArrayFault F (.array items) m

/-- What is wrong with a list first, sequence by sequence and token by token. -/
def ListFault : Json → Fault :=
  ArrayFault (ArrayFault TokenFault)

end Selectors
