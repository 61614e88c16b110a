import Mathlib.Data.List.Forall2
import Selectors.Token.Decode

namespace Selectors

set_option autoImplicit true

inductive DenotesString : Json → String → Prop
  | string (s : String) : DenotesString (.string s) s

inductive DenotesNamespace : Json → Option String → Prop
  | null : DenotesNamespace .null none
  | string (s : String) : DenotesNamespace (.string s) (some s)

/-- An action by its name, or by an object with the name as its only key. -/
inductive DenotesAction : Json → Action → Prop
  | name (a : Action) : DenotesAction (.string a.name) a
  | unit (a : Action) : DenotesAction (.object [(a.name, .null)]) a
  | empty (a : Action) : DenotesAction (.object [(a.name, .object [])]) a

inductive DenotesCaseMode : Json → CaseMode → Prop
  | insensitive : DenotesCaseMode (.bool true) .insensitive
  | sensitive : DenotesCaseMode (.bool false) .sensitive
  | null : DenotesCaseMode .null .unflagged
  | name : DenotesCaseMode (.string "quirks") .unflagged
  | unit : DenotesCaseMode (.object [("quirks", .null)]) .unflagged

/-- A kind by its name, or, where the tag is read leniently, by its index. -/
inductive DenotesKind : Leniency → Json → Kind → Prop
  | name (r : Leniency) (k : Kind) : DenotesKind r (.string k.name) k
  | index (i : Nat) (h : Kind.all[i]? = some k) : DenotesKind .lenient (.integer i) k

/-- An array whose items denote the elements, one each. -/
inductive DenotesArray (R : Json → α → Prop) : Json → List α → Prop
  | items (h : List.Forall₂ R items xs) : DenotesArray R (.array items) xs

/-- A field that is not left out. -/
inductive Required (R : Json → α → Prop) : Option Json → α → Prop
  | present (h : R v x) : Required R (some v) x

/-- A field that may be left out, and then holds `d`. -/
inductive Defaulted (R : Json → α → Prop) (d : α) : Option Json → α → Prop
  | absent : Defaulted R d none d
  | present (h : R v x) : Defaulted R d (some v) x

/-- The fields of an attribute, each looked up by its name. -/
structure DenotesAttribute (field : String → Option Json) (a : Attribute) : Prop where
  name : Required DenotesString (field "name") a.name
  action : Required DenotesAction (field "action") a.action
  value : Defaulted DenotesString "" (field "value") a.value
  ns : Defaulted DenotesNamespace none (field "namespace") a.ns
  caseMode : Defaulted DenotesCaseMode .unflagged (field "ignoreCase") a.caseMode

mutual
/-- A token is an object of named fields, or an array of its kind and the fields by position. -/
inductive DenotesToken : Leniency → Json → Token → Prop
  | object (htag : Required (DenotesKind r) (fields.lookup "type") k)
      (h : DenotesFields k (fun key => fields.lookup key) t) : DenotesToken r (.object fields) t
  | array (htag : DenotesKind r tag k) (hlength : items.length ≤ k.fields.length)
      (h : DenotesFields k (fun key => items[k.fields.idxOf key]?) t) :
      DenotesToken r (.array (tag :: items)) t

/-- Fields that no kind knows are free. -/
inductive DenotesFields : Kind → (String → Option Json) → Token → Prop
  | combinator (c : Combinator) : DenotesFields (.combinator c) field (.combinator c)
  | universal (hns : Defaulted DenotesNamespace none (field "namespace") ns) :
      DenotesFields .universal field (.universal ns)
  | tag (hname : Required DenotesString (field "name") name)
      (hns : Defaulted DenotesNamespace none (field "namespace") ns) :
      DenotesFields .tag field (.tag name ns)
  | pseudoElement (hname : Required DenotesString (field "name") name) :
      DenotesFields .pseudoElement field (.pseudoElement name)
  | pseudo (hname : Required DenotesString (field "name") name)
      (hdata : Defaulted DenotesArgument .absent (field "data") argument) :
      DenotesFields .pseudo field (.pseudo name argument)
  | attribute (h : DenotesAttribute field a) : DenotesFields .attribute field (.attribute a)

/-- Below a pseudo-class the tags are read leniently. -/
inductive DenotesArgument : Json → Argument → Prop
  | null : DenotesArgument .null .absent
  | string (s : String) : DenotesArgument (.string s) (.text s)
  | array (h : DenotesArray (DenotesArray (DenotesToken .lenient)) v list) :
      DenotesArgument v (.selectors list)
end

theorem denotes_items : DenotesArray R (.array items) xs ↔ List.Forall₂ R items xs :=
  ⟨fun ⟨h⟩ => h, .items⟩

theorem denotes_data : DenotesArgument (.array items) p ↔ ∃ list,
    List.Forall₂ (DenotesArray (DenotesToken .lenient)) items list ∧ .selectors list = p := by
  constructor
  · intro h
    cases h with
    | array h => exact ⟨_, denotes_items.mp h, rfl⟩
  · intro h
    obtain ⟨list, h, rfl⟩ := h
    exact .array (.items h)

theorem denotes_object : DenotesToken r (.object fields) t ↔
    ∃ k, Required (DenotesKind r) (fields.lookup "type") k ∧
      DenotesFields k (fun key => fields.lookup key) t := by
  constructor
  · intro h
    cases h with
    | object htag h => exact ⟨_, htag, h⟩
  · intro h
    obtain ⟨k, htag, h⟩ := h
    exact .object htag h

theorem denotes_array : DenotesToken r (.array (tag :: items)) t ↔
    ∃ k, DenotesKind r tag k ∧ items.length ≤ k.fields.length ∧
      DenotesFields k (fun key => items[k.fields.idxOf key]?) t := by
  constructor
  · intro h
    cases h with
    | array htag hlength h => exact ⟨_, htag, hlength, h⟩
  · intro h
    obtain ⟨k, htag, hlength, h⟩ := h
    exact .array htag hlength h

theorem denotes_combinator :
    DenotesFields (.combinator c) field t ↔ .combinator c = t := by
  constructor
  · intro h
    cases h with
    | combinator => rfl
  · intro h
    subst h
    exact .combinator c

theorem denotes_universal : DenotesFields .universal field t ↔
    ∃ ns, Defaulted DenotesNamespace none (field "namespace") ns ∧ .universal ns = t := by
  constructor
  · intro h
    cases h with
    | universal hns => exact ⟨_, hns, rfl⟩
  · intro h
    obtain ⟨ns, hns, rfl⟩ := h
    exact .universal hns

theorem denotes_tag : DenotesFields .tag field t ↔
    ∃ name, Required DenotesString (field "name") name ∧
      ∃ ns, Defaulted DenotesNamespace none (field "namespace") ns ∧ .tag name ns = t := by
  constructor
  · intro h
    cases h with
    | tag hname hns => exact ⟨_, hname, _, hns, rfl⟩
  · intro h
    obtain ⟨name, hname, ns, hns, rfl⟩ := h
    exact .tag hname hns

theorem denotes_pseudoElement : DenotesFields .pseudoElement field t ↔
    ∃ name, Required DenotesString (field "name") name ∧ .pseudoElement name = t := by
  constructor
  · intro h
    cases h with
    | pseudoElement hname => exact ⟨_, hname, rfl⟩
  · intro h
    obtain ⟨name, hname, rfl⟩ := h
    exact .pseudoElement hname

theorem denotes_pseudo : DenotesFields .pseudo field t ↔
    ∃ name, Required DenotesString (field "name") name ∧
      ∃ argument, Defaulted DenotesArgument .absent (field "data") argument ∧
        .pseudo name argument = t := by
  constructor
  · intro h
    cases h with
    | pseudo hname hdata => exact ⟨_, hname, _, hdata, rfl⟩
  · intro h
    obtain ⟨name, hname, argument, hdata, rfl⟩ := h
    exact .pseudo hname hdata

theorem denotes_attribute : DenotesFields .attribute field t ↔
    ∃ a, DenotesAttribute field a ∧ .attribute a = t := by
  constructor
  · intro h
    cases h
    exact ⟨_, ‹_›, rfl⟩
  · intro h
    obtain ⟨a, h, rfl⟩ := h
    exact .attribute h

/-- A list is an array of arrays of tokens. -/
def DenotesList (r : Leniency) : Json → SelectorList → Prop :=
  DenotesArray (DenotesArray (DenotesToken r))

end Selectors
