import Selectors.Printer
import Selectors.Proofs.Escaping
import Selectors.Proofs.Outcome
import Selectors.Token.Gaps

namespace Selectors

def Reporter.reportAll (r : Reporter) (ws : List Warning) : Reporter :=
  ws.foldl report r

@[simp] theorem Reporter.reportAll_nil (r : Reporter) : r.reportAll [] = r := rfl

@[simp] theorem Reporter.reportAll_append (r : Reporter) (ws vs : List Warning) :
    r.reportAll (ws ++ vs) = (r.reportAll ws).reportAll vs :=
  List.foldl_append

/-- The printer once `text` has been written and the empty sequences at `gaps` reported. -/
def Printer.after (p : Printer) (text : String) (gaps : List Nat) : Printer where
  buffer := p.buffer ++ text
  reporter := p.reporter.reportAll (gaps.map .emptySequence)

namespace Printer

@[simp] theorem after_after (p : Printer) (s t : String) (m n : List Nat) :
    (p.after s m).after t n = p.after (s ++ t) (m ++ n) := by
  simp [after, String.append_assoc]

@[simp] theorem after_nothing (p : Printer) : p.after "" [] = p := by
  simp [after]

@[simp] theorem write_eq (p : Printer) (s : String) : p.write s = p.after s [] := rfl

@[simp] theorem report_eq (p : Printer) (index : Nat) :
    p.report (.emptySequence index) = p.after "" [index] := by
  simp [report, after, Reporter.reportAll]

@[simp] theorem writeEscaped_eq (C : CharClass) (s : String) (p : Printer) :
    p.writeEscaped C s = .ok (p.after (C.escape s) []) := by
  unfold writeEscaped
  rw [C.escapeRuns_eq]
  by_cases h : C.Clean s
  · simp [h, h.escape_eq]
  · simp [h]

@[simp] theorem writeNamespace_eq (ns : Option String) (p : Printer) :
    p.writeNamespace ns = .ok (p.after (renderNamespace ns) []) := by
  cases ns with
  | none => simp [writeNamespace, renderNamespace]
  | some ns => by_cases h : ns = anyNamespace <;> simp [writeNamespace, renderNamespace, h]

@[simp] theorem writeQualified_eq (ns : Option String) (name : String) (p : Printer) :
    p.writeQualified ns name =
      .ok (p.after (renderNamespace ns ++ CharClass.name.escape name) []) := by
  simp [writeQualified]

@[simp] theorem writeCondition_eq (a : Attribute) (p : Printer) :
    p.writeCondition a = .ok (p.after a.condition []) := by
  cases h : a.action <;>
    simp [writeCondition, Attribute.condition, Action.symbol, h, String.append_assoc]

@[simp] theorem writeAttribute_eq (a : Attribute) (p : Printer) :
    p.writeAttribute a = .ok (p.after a.render []) := by
  unfold writeAttribute Attribute.render
  cases a.shorthand? with
  | some mark => simp
  | none => simp [String.append_assoc]

end Printer

/-- The sequences from position `index` on, each behind its comma if it has one. -/
def renderFrom : (index : Nat) → List (List Token) → String
  | _, [] => ""
  | index, s :: l =>
    (if index = 0 then "" else ", ") ++ renderSequence s ++ renderFrom (index + 1) l

theorem renderFrom_succ (index : Nat) (l : List (List Token)) :
    renderFrom (index + 1) l = renderFrom 1 l := by
  induction l generalizing index with
  | nil => rfl
  | cons s l ih => simp [renderFrom, ih (index + 1), ih 1]

theorem intercalate_renderSequences (s : List Token) (l : List (List Token)) :
    ", ".intercalate (renderSequences (s :: l)) = renderSequence s ++ renderFrom 1 l := by
  induction l generalizing s with
  | nil => simp [renderSequences, renderFrom]
  | cons r l ih =>
    have h := ih r
    simp only [renderSequences] at h ⊢
    rw [String.intercalate_cons_cons, h]
    simp [renderFrom, renderFrom_succ 1, String.append_assoc]

theorem renderList_eq (l : SelectorList) : renderList l = renderFrom 0 l := by
  cases l with
  | nil => rfl
  | cons s l => simp [renderList, intercalate_renderSequences, renderFrom]

mutual
theorem Token.print_eq (p : Printer) : ∀ t : Token, t.print p = .ok (p.after t.render t.gaps)
  | .combinator c => by simp [Token.print, Token.render, Token.gaps]
  | .universal ns => by simp [Token.print, Token.render, Token.gaps]
  | .tag name ns => by simp [Token.print, Token.render, Token.gaps]
  | .pseudoElement name => by simp [Token.print, Token.render, Token.gaps]
  | .pseudo name argument => by
    simp [Token.print, Token.render, Token.gaps, Argument.print_eq _ argument, String.append_assoc]
  | .attribute a => by simp [Token.print, Token.render, Token.gaps]

theorem Argument.print_eq (p : Printer) :
    ∀ a : Argument, a.print p = .ok (p.after a.render a.gaps)
  | .absent => by simp [Argument.print, Argument.render, Argument.gaps]
  | .text s => by simp [Argument.print, Argument.render, Argument.gaps, String.append_assoc]
  | .selectors list => by
    have h := renderList_eq list
    rw [renderList] at h
    simp [Argument.print, Argument.render, Argument.gaps, printList_eq _ 0 list, h,
      String.append_assoc]

theorem printSequence_eq (p : Printer) :
    ∀ s : List Token, printSequence s p = .ok (p.after (renderSequence s) (sequenceGaps s))
  | [] => by simp [printSequence, renderSequence, sequenceGaps]
  | t :: s => by
    simp [printSequence, renderSequence, sequenceGaps, Token.print_eq _ t, printSequence_eq _ s]

theorem printList_eq (p : Printer) (index : Nat) :
    ∀ l : List (List Token),
      printList l index p = .ok (p.after (renderFrom index l) (listGaps l index))
  | [] => by simp [printList, renderFrom, listGaps]
  | s :: l => by
    have hcomma : (if index = 0 then p else p.write ", ") =
        p.after (if index = 0 then "" else ", ") [] := by
      split <;> simp
    have hreport (q : Printer) : (if s.isEmpty then q.report (.emptySequence index) else q) =
        q.after "" (if s.isEmpty then [index] else []) := by
      split <;> simp
    simp only [printList, hcomma, hreport, printSequence_eq _ s, ok_bind, printList_eq _ _ l,
      Printer.after_after, renderFrom, listGaps]
    simp [String.append_assoc]
end

namespace Reporter

/-- Printing never stops at a defect, and its text does not depend on what was reported before. -/
theorem printToken_eq (r : Reporter) (t : Token) :
    r.printToken t = .ok (t.render, r.reportAll (t.gaps.map .emptySequence)) := by
  simp [printToken, Token.print_eq, Printer.after]

theorem printSequence_eq (r : Reporter) (s : Sequence) :
    r.printSequence s =
      .ok (renderSequence s, r.reportAll ((sequenceGaps s).map .emptySequence)) := by
  simp [printSequence, Selectors.printSequence_eq, Printer.after]

theorem printList_eq (r : Reporter) (list : SelectorList) :
    r.printList list =
      .ok (renderList list, r.reportAll ((listGaps list 0).map .emptySequence)) := by
  simp [printList, Selectors.printList_eq, Printer.after, renderList_eq]

/-- The text of one token, without the reports that go with it. -/
def printedToken (r : Reporter) (t : Token) : Except Defect String :=
  (r.printToken t).map Prod.fst

theorem printedToken_eq (r : Reporter) (t : Token) : r.printedToken t = .ok t.render := by
  rw [printedToken, printToken_eq]
  rfl

theorem printedToken_eq_iff (r q : Reporter) (t u : Token) :
    r.printedToken t = q.printedToken u ↔ t.render.toList = u.render.toList := by
  rw [printedToken_eq, printedToken_eq, Except.ok.injEq, String.toList_inj]

/-- No cut goes wrong and no symbol is missing anywhere in a tree, whatever its texts are. -/
theorem printing_succeeds (r : Reporter) :
    (∀ list : SelectorList, ∃ r', r.printList list = .ok (renderList list, r')) ∧
      (∀ s : Sequence, ∃ r', r.printSequence s = .ok (renderSequence s, r')) ∧
      ∀ t : Token, ∃ r', r.printToken t = .ok (t.render, r') :=
  ⟨fun list => ⟨_, r.printList_eq list⟩, fun s => ⟨_, r.printSequence_eq s⟩,
    fun t => ⟨_, r.printToken_eq t⟩⟩

end Reporter

end Selectors
