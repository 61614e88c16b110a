import Selectors.Token.Render
import Selectors.Warning

namespace Selectors

/-- What printing would have to stop at; no list leads to one. -/
inductive Defect
  | badRange (e : BadRange)
  | noSymbol (e : NoSymbol)
  deriving DecidableEq

/-- The text printed so far and the warnings that went with it. -/
structure Printer where
  buffer : String := ""
  reporter : Reporter := {}

namespace Printer

def write (text : String) (p : Printer) : Printer :=
  { p with buffer := p.buffer ++ text }

def report (w : Warning) (p : Printer) : Printer :=
  { p with reporter := p.reporter.report w }

def writeEscaped (C : CharClass) (text : String) (p : Printer) : Except Defect Printer :=
  match C.escapeRuns text with
  | .ok none => .ok (p.write text)
  | .ok (some escaped) => .ok (p.write escaped)
  | .error e => .error (.badRange e)

def writeNamespace (ns : Option String) (p : Printer) : Except Defect Printer :=
  match ns with
  | none => .ok p
  | some ns =>
    if ns = anyNamespace then .ok ((p.write anyNamespace).write "|")
    else do return (← p.writeEscaped .name ns).write "|"

def writeQualified (ns : Option String) (name : String) (p : Printer) :
    Except Defect Printer := do
  (← p.writeNamespace ns).writeEscaped .name name

def writeCondition (a : Attribute) (p : Printer) : Except Defect Printer :=
  if a.action = .present then .ok p
  else
    match a.action.symbol with
    | .error e => .error (.noSymbol e)
    | .ok symbol => do
      let p ← ((p.write symbol).write "=\"").writeEscaped .attributeValue a.value
      return (p.write "\"").write a.caseMode.suffix

def writeAttribute (a : Attribute) (p : Printer) : Except Defect Printer :=
  match a.shorthand? with
  | some mark => (p.write mark).writeEscaped .name a.value
  | none => do
    let p ← (p.write "[").writeQualified a.ns a.name
    return (← p.writeCondition a).write "]"

end Printer

mutual
def Token.print : Token → Printer → Except Defect Printer
  | .combinator c, p => .ok (p.write c.render)
  | .universal ns, p => do return (← p.writeNamespace ns).write "*"
  | .tag name ns, p => p.writeQualified ns name
  | .pseudoElement name, p => (p.write "::").writeEscaped .name name
  | .pseudo name argument, p => do argument.print (← (p.write ":").writeEscaped .name name)
  | .attribute a, p => p.writeAttribute a

def Argument.print : Argument → Printer → Except Defect Printer
  | .absent, p => .ok p
  | .text s, p => do return (← (p.write "(").writeEscaped .pseudoValue s).write ")"
  | .selectors list, p => do return (← printList list 0 (p.write "(")).write ")"

def printSequence : List Token → Printer → Except Defect Printer
  | [], p => .ok p
  | t :: s, p => do printSequence s (← t.print p)

/-- The sequences from position `index` on: a comma stands before all but the first one of the
list, and an empty one is reported before it is printed. -/
def printList : List (List Token) → (index : Nat) → Printer → Except Defect Printer
  | [], _, p => .ok p
  | s :: l, index, p => do
    let p := if index = 0 then p else p.write ", "
    let p := if s.isEmpty then p.report (.emptySequence index) else p
    printList l (index + 1) (← printSequence s p)
end

namespace Reporter

def printToken (r : Reporter) (t : Token) : Except Defect (String × Reporter) := do
  let p ← t.print { reporter := r }
  return (p.buffer, p.reporter)

def printSequence (r : Reporter) (s : Sequence) : Except Defect (String × Reporter) := do
  let p ← Selectors.printSequence s { reporter := r }
  return (p.buffer, p.reporter)

def printList (r : Reporter) (list : SelectorList) : Except Defect (String × Reporter) := do
  let p ← Selectors.printList list 0 { reporter := r }
  return (p.buffer, p.reporter)

end Reporter

end Selectors
