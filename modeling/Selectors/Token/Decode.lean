import Selectors.Token.Refusal

namespace Selectors

/-- How a name may be written: strictly as itself, or also in a second form, which is a number for
a kind and an empty object behind an action. -/
inductive Leniency
  | strict
  | lenient
  deriving DecidableEq

def readString : Json → Except Refusal String
  | .string s => .ok s
  | v => .error (.mismatch v.shape .string)

def readOption : Json → Except Refusal (Option String)
  | .null => .ok none
  | v => do return some (← readString v)

def actionNamed (name : String) : Except Refusal Action :=
  match Action.ofName? name with
  | some a => .ok a
  | none => .error (.unknownAction name)

def readUnit : Leniency → Json → Except Refusal Unit
  | _, .null => .ok ()
  | .lenient, .object [] => .ok ()
  | _, v => .error (.mismatch v.shape .unit)

def readAction (r : Leniency) : Json → Except Refusal Action
  | .string name => actionNamed name
  | .object [(name, v)] => do
    let a ← actionNamed name
    readUnit r v
    return a
  | .object _ => .error .notOneKey
  | v => .error (.mismatch v.shape .action)

def readCaseMode : Json → Except Refusal CaseMode
  | .bool true => .ok .insensitive
  | .bool false => .ok .sensitive
  | .null => .ok .unflagged
  | .string name => if name = "quirks" then .ok .unflagged else .error .badCaseMode
  | .object [(name, .null)] => if name = "quirks" then .ok .unflagged else .error .badCaseMode
  | _ => .error .badCaseMode

def readKind : Leniency → Json → Except Refusal Kind
  | _, .string name =>
    match Kind.ofName? name with
    | some k => .ok k
    | none => .error (.unknownKind name)
  | .lenient, .integer n =>
    match Kind.ofIndex? n with
    | some k => .ok k
    | none => .error (.mismatch (.integer n) .kind)
  | _, v => .error (.mismatch v.shape .kind)

def readPresent {α : Type} (read : Json → Except Refusal α) :
    Option Json → Except Refusal (Option α)
  | none => .ok none
  | some v => do return some (← read v)

def required {α : Type} (missing : Refusal) : Option α → Except Refusal α
  | some x => .ok x
  | none => .error missing

section Fields

variable (fields : List (String × Json))

def readFieldKind (r : Leniency) : Except Refusal Kind :=
  match fields.lookup "type" with
  | some v => readKind r v
  | none => .error (.missingField "type")

def readField {α : Type} (key : String) (read : Json → Except Refusal α) :
    Except Refusal (Option α) :=
  readPresent read (fields.lookup key)

def readNameField : Except Refusal (Option String) :=
  readField fields "name" readString

def readNamespaceField : Except Refusal (Option String) := do
  return (← readField fields "namespace" readOption).join

def readTagFields : Except Refusal Token := do
  let name ← readNameField fields
  let ns ← readNamespaceField fields
  return .tag (← required (.missingField "name") name) ns

/-- The fields in the order of their names, and only then the ones that are missing. -/
def readAttributeFields : Except Refusal Attribute := do
  let action ← readField fields "action" (readAction .lenient)
  let caseMode ← readField fields "ignoreCase" readCaseMode
  let name ← readNameField fields
  let ns ← readNamespaceField fields
  let value ← readField fields "value" readString
  let name ← required (.missingField "name") name
  let action ← required (.missingField "action") action
  return { name, action, value := value.getD "", ns, caseMode := caseMode.getD .unflagged }

end Fields

section Items

variable (items : List Json)

def readItem {α : Type} (i : Nat) (read : Json → Except Refusal α) : Except Refusal (Option α) :=
  readPresent read items[i]?

def readRequiredItem {α : Type} (k : Kind) (i : Nat) (read : Json → Except Refusal α) :
    Except Refusal α := do
  required (.tooShort items.length k) (← readItem items i read)

def readNamespaceItem (i : Nat) : Except Refusal (Option String) := do
  return (← readItem items i readOption).join

/-- No item is left behind the last field. -/
def complete {α : Type} (k : Kind) (x : α) : Except Refusal α :=
  if items.length ≤ k.fields.length then .ok x else .error (.tooLong items.length k)

def readTagItems : Except Refusal Token := do
  let name ← readRequiredItem items .tag 0 readString
  let ns ← readNamespaceItem items 1
  complete items .tag (.tag name ns)

def readAttributeItems : Except Refusal Attribute := do
  let name ← readRequiredItem items .attribute 0 readString
  let action ← readRequiredItem items .attribute 1 (readAction .lenient)
  let value ← readItem items 2 readString
  let ns ← readNamespaceItem items 3
  let caseMode ← readItem items 4 readCaseMode
  complete items .attribute
    { name, action, value := value.getD "", ns, caseMode := caseMode.getD .unflagged }

end Items

mutual
/-- A token is an object of named fields or an array with its kind first. -/
def readToken (r : Leniency) : Json → Except Refusal Token
  | .object fields => do
    match ← readFieldKind fields r with
    | .combinator c => return .combinator c
    | .universal => return .universal (← readNamespaceField fields)
    | .tag => readTagFields fields
    | .pseudoElement =>
      return .pseudoElement (← required (.missingField "name") (← readNameField fields))
    | .pseudo =>
      let argument ← readArgumentField fields
      return .pseudo (← required (.missingField "name") (← readNameField fields)) argument
    | .attribute => return .attribute (← readAttributeFields fields)
  | .array [] => .error (.missingField "type")
  | .array (tag :: items) => do
    match ← readKind r tag with
    | .combinator c => complete items (.combinator c) (.combinator c)
    | .universal => complete items .universal (.universal (← readNamespaceItem items 0))
    | .tag => readTagItems items
    | .pseudoElement =>
      complete items .pseudoElement
        (.pseudoElement (← readRequiredItem items .pseudoElement 0 readString))
    | .pseudo =>
      let name ← readRequiredItem items .pseudo 0 readString
      complete items .pseudo (.pseudo name (← readArgumentItem items))
    | .attribute => return .attribute (← readAttributeItems items)
  | v => .error (.mismatch v.shape .token)

def readArgument : Json → Except Refusal Argument
  | .null => .ok .absent
  | .string s => .ok (.text s)
  | .array items =>
    match readSequences .lenient items with
    | .ok list => .ok (.selectors list)
    | .error _ => .error .badArgument
  | _ => .error .badArgument

def readArgumentField : List (String × Json) → Except Refusal Argument
  | [] => .ok .absent
  | (key, v) :: fields => if key = "data" then readArgument v else readArgumentField fields

def readArgumentItem : List Json → Except Refusal Argument
  | _ :: v :: _ => readArgument v
  | _ => .ok .absent

def readSequence (r : Leniency) : List Json → Except Refusal (List Token)
  | [] => .ok []
  | v :: items => do return (← readToken r v) :: (← readSequence r items)

def readSequences (r : Leniency) : List Json → Except Refusal (List (List Token))
  | [] => .ok []
  | .array s :: items => do return (← readSequence r s) :: (← readSequences r items)
  | v :: _ => .error (.mismatch v.shape .sequence)
end

def decodeToken (v : Json) : Except Refusal Token :=
  readToken .strict v

def decodeSequence : Json → Except Refusal Sequence
  | .array items => readSequence .strict items
  | v => .error (.mismatch v.shape .sequence)

def decodeList : Json → Except Refusal SelectorList
  | .array items => readSequences .strict items
  | v => .error (.mismatch v.shape .sequence)

end Selectors
