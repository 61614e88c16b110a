import Selectors.Proofs.Bracketed
import Selectors.Proofs.Printing

namespace Selectors

set_option autoImplicit true

/-- Where a reader of a text stands: behind a backslash, between quotes, and in how many
parentheses. -/
structure Place where
  escaped : Bool
  quoted : Bool
  depth : Nat

namespace Place

def outside (depth : Nat) : Place where
  escaped := false
  quoted := false
  depth := depth

/-- A closing parenthesis that was never opened stops the reader. -/
def step (s : Place) (c : Char) : Option Place :=
  if s.escaped then some { s with escaped := false }
  else if c = '\\' then some { s with escaped := true }
  else if c = '"' then some { s with quoted := !s.quoted }
  else if s.quoted then some s
  else if c = '(' then some { s with depth := s.depth + 1 }
  else if c = ')' then
    match s.depth with
    | 0 => none
    | depth + 1 => some { s with depth }
  else some s

def run (s : Place) (text : List Char) : Option Place :=
  text.foldlM step s

@[simp] theorem run_nil (s : Place) : s.run [] = some s := rfl

@[simp] theorem run_cons (s : Place) (c : Char) (x : List Char) :
    s.run (c :: x) = (s.step c).bind (·.run x) := rfl

end Place

/-- The text is read from `s` to `t`, and every place on the way is one of `P`. -/
structure Leads (P : Place → Prop) (s : Place) (text : List Char) (t : Place) : Prop where
  run : s.run text = some t
  stays : ∀ x, x <+: text → ∃ u, s.run x = some u ∧ P u

namespace Leads

theorem nil (h : P s) : Leads P s [] s where
  run := rfl
  stays := by
    intro x hx
    rw [List.prefix_nil] at hx
    subst x
    exact ⟨s, rfl, h⟩

theorem cons (h : P s) (hstep : s.step c = some r) (hx : Leads P r x t) :
    Leads P s (c :: x) t where
  run := by
    rw [Place.run_cons, hstep]
    exact hx.run
  stays := by
    intro y hy
    rcases List.prefix_cons_iff.mp hy with rfl | ⟨z, rfl, hz⟩
    · exact ⟨s, rfl, h⟩
    · rw [Place.run_cons, hstep]
      exact hx.stays z hz

theorem first (h : Leads P s x t) : P s := by
  obtain ⟨u, hu, hP⟩ := h.stays [] List.nil_prefix
  cases hu
  exact hP

theorem uncons (h : Leads P s (c :: x) t) : ∃ r, s.step c = some r ∧ Leads P r x t := by
  obtain ⟨r, hstep, hrun⟩ := Option.bind_eq_some_iff.mp h.run
  refine ⟨r, hstep, hrun, fun y hy => ?_⟩
  have hstays := h.stays (c :: y) (List.cons_prefix_cons.mpr ⟨rfl, hy⟩)
  rwa [Place.run_cons, hstep] at hstays

theorem append (hx : Leads P s x r) (hy : Leads P r y t) : Leads P s (x ++ y) t := by
  induction x generalizing s with
  | nil =>
    cases hx.run
    exact hy
  | cons c x ih =>
    obtain ⟨q, hstep, hq⟩ := hx.uncons
    exact .cons hx.first hstep (ih hq)

theorem mono (h : Leads P s x t) (hPQ : ∀ u, P u → Q u) : Leads Q s x t where
  run := h.run
  stays := by
    intro y hy
    obtain ⟨u, hu, hP⟩ := h.stays y hy
    exact ⟨u, hu, hPQ u hP⟩

end Leads

/-- Opens and closes no parenthesis, at any depth, and leaves nothing open. -/
def Flat (text : List Char) : Prop :=
  ∀ depth, Leads (·.depth = depth) (.outside depth) text (.outside depth)

/-- Closes what it opens and no more, at any depth. -/
def Closed (text : List Char) : Prop :=
  ∀ depth, Leads (depth ≤ ·.depth) (.outside depth) text (.outside depth)

theorem Flat.nil : Flat [] :=
  fun _ => .nil rfl

theorem Flat.append (hx : Flat x) (hy : Flat y) : Flat (x ++ y) :=
  fun depth => (hx depth).append (hy depth)

theorem Flat.closed (h : Flat x) : Closed x :=
  fun depth => (h depth).mono fun _ hu => Nat.le_of_eq hu.symm

theorem Closed.append (hx : Closed x) (hy : Closed y) : Closed (x ++ y) :=
  fun depth => (hx depth).append (hy depth)

theorem Closed.parenthesized (h : Closed body) : Closed ('(' :: (body ++ [')'])) := by
  intro depth
  have hbody : Leads (depth ≤ ·.depth) (.outside (depth + 1)) body (.outside (depth + 1)) :=
    (h (depth + 1)).mono fun _ hu => Nat.le_of_succ_le hu
  have hclose : Leads (depth ≤ ·.depth) (.outside (depth + 1)) [')'] (.outside depth) :=
    .cons (Nat.le_succ depth) rfl (.nil (Nat.le_refl depth))
  exact .cons (Nat.le_refl depth) rfl (hbody.append hclose)

/-- The characters that a reader takes notice of. -/
def noticed : List Char :=
  ['\\', '"', '(', ')']

theorem Place.step_outside {depth : Nat} (hc : c ∉ noticed) :
    (outside depth).step c = some (outside depth) := by
  simp only [noticed, List.mem_cons, List.not_mem_nil, or_false, not_or] at hc
  obtain ⟨hback, hquote, hopen, hclose⟩ := hc
  simp [step, outside, hback, hquote, hopen, hclose]

theorem Flat.of_unnoticed (h : x.all (!noticed.contains ·)) : Flat x := by
  intro depth
  induction x with
  | nil => exact .nil rfl
  | cons c x ih =>
    obtain ⟨hc, hx⟩ := Bool.and_eq_true_iff.mp h
    exact .cons rfl (Place.step_outside (by simpa using hc)) (ih hx)

/-- A reader comes back to where it was if the class has every character that would move it. -/
theorem CharClass.escape_leads {C : CharClass} (hs : s.escaped = false)
    (hfree : ∀ c, C.contains c = false → s.step c = some s)
    (hP : ∀ escaped, P { s with escaped }) (text : String) :
    Leads P s (C.escape text).toList s := by
  have hself : P s := hP s.escaped
  rw [toList_escape]
  induction text.toList with
  | nil => exact .nil hself
  | cons c cs ih =>
    rw [List.flatMap_cons]
    by_cases hc : C.contains c
    · have hback : s.step '\\' = some { s with escaped := true } := by simp [Place.step, hs]
      have hnext : ({ s with escaped := true } : Place).step c = some s := by
        simp [Place.step, ← hs]
      rw [escapeChar, if_pos hc]
      exact .cons hself hback (.cons (hP true) hnext ih)
    · rw [escapeChar, if_neg hc]
      exact .cons hself (hfree c (by simpa using hc)) ih

theorem Flat.escaped {C : CharClass} (hC : noticed.all C.contains) (text : String) :
    Flat (C.escape text).toList := by
  intro depth
  apply C.escape_leads rfl ?_ fun _ => rfl
  intro c hc
  apply Place.step_outside
  intro hmem
  rw [List.all_eq_true.mp hC c hmem] at hc
  cases hc

theorem Flat.name (text : String) : Flat (CharClass.name.escape text).toList :=
  .escaped (by decide) text

/-- Between quotes a reader takes notice of a backslash and of the quote at the end. -/
theorem Flat.quoted (text : String) :
    Flat ('"' :: ((CharClass.attributeValue.escape text).toList ++ ['"'])) := by
  intro depth
  have hvalue : Leads (·.depth = depth) ⟨false, true, depth⟩
      (CharClass.attributeValue.escape text).toList ⟨false, true, depth⟩ := by
    apply CharClass.escape_leads rfl ?_ fun _ => rfl
    intro c hc
    have hne : c ≠ '\\' ∧ c ≠ '"' := by
      simpa [CharClass.contains, CharClass.attributeValue] using hc
    simp [Place.step, hne]
  exact .cons rfl rfl (hvalue.append (.cons rfl rfl (.nil rfl)))

theorem Flat.namespace (ns : Option String) : Flat (renderNamespace ns).toList := by
  cases ns with
  | none => exact .nil
  | some ns =>
    rw [renderNamespace, String.toList_append]
    apply Flat.append ?_ (.of_unnoticed (by decide))
    split
    · exact .of_unnoticed (by decide)
    · exact .name ns

theorem Combinator.flat (c : Combinator) : Flat c.render.toList := by
  cases c <;> exact .of_unnoticed (by decide)

theorem Attribute.flat_condition (a : Attribute) : Flat a.condition.toList := by
  cases hs : a.action.symbol with
  | error e =>
    rw [condition, hs]
    exact .nil
  | ok symbol =>
    have hsymbol : Flat (symbol.toList ++ ['=']) := by
      cases ha : a.action <;> rw [ha] at hs <;> cases hs <;> exact .of_unnoticed (by decide)
    have hsuffix : Flat a.caseMode.suffix.toList := by
      cases a.caseMode <;> exact .of_unnoticed (by decide)
    have h := (hsymbol.append (.quoted a.value)).append hsuffix
    simpa [condition, hs] using h

theorem Attribute.flat (a : Attribute) : Flat a.render.toList := by
  unfold render
  cases h : a.shorthand? with
  | some mark =>
    have hmark : Flat mark.toList := by
      rcases shorthand_cases h with ⟨rfl, -⟩ | ⟨rfl, -⟩ <;> exact .of_unnoticed (by decide)
    rw [String.toList_append]
    exact hmark.append (.name a.value)
  | none =>
    have hname := (Flat.namespace a.ns).append ((Flat.name a.name).append a.flat_condition)
    have hopen : Flat ['['] := .of_unnoticed (by decide)
    have hclose : Flat [']'] := .of_unnoticed (by decide)
    simpa using hopen.append (hname.append hclose)

theorem Token.flat_pseudo (name : String) : Flat (':' :: (CharClass.name.escape name).toList) := by
  have hcolon : Flat [':'] := .of_unnoticed (by decide)
  exact hcolon.append (.name name)

mutual
/-- Only the argument of a pseudo-class has parentheses that count. -/
theorem Token.closed : ∀ t : Token, Closed t.render.toList
  | .combinator c => c.flat.closed
  | .universal ns => by
    rw [Token.render, String.toList_append]
    exact ((Flat.namespace ns).append (.of_unnoticed (by decide))).closed
  | .tag name ns => by
    rw [Token.render, String.toList_append]
    exact ((Flat.namespace ns).append (.name name)).closed
  | .pseudoElement name => by
    have hcolons : Flat [':', ':'] := .of_unnoticed (by decide)
    rw [Token.render, String.toList_append]
    exact (hcolons.append (.name name)).closed
  | .pseudo name argument => by
    rw [Token.render, String.toList_append, String.toList_append]
    apply (Token.flat_pseudo name).closed.append
    by_cases h : argument = .absent
    · subst argument
      exact Flat.nil.closed
    · obtain ⟨body, hbody, hclosed⟩ := argument.parenthesized h
      rw [hbody]
      exact hclosed.parenthesized
  | .attribute a => a.flat.closed

theorem Argument.parenthesized : ∀ p : Argument, p ≠ .absent →
    ∃ body, p.render.toList = '(' :: (body ++ [')']) ∧ Closed body
  | .absent, h => (h rfl).elim
  | .text s, _ => by
    refine ⟨(CharClass.pseudoValue.escape s).toList, ?_, (Flat.escaped (by decide) s).closed⟩
    simp [Argument.render]
  | .selectors list, _ => by
    refine ⟨(renderList list).toList, by simp [Argument.render, renderList], ?_⟩
    rw [renderList_eq]
    exact closed_renderFrom 0 list

theorem closed_renderSequence : ∀ s : List Token, Closed (renderSequence s).toList
  | [] => Flat.nil.closed
  | t :: s => by
    rw [renderSequence, String.toList_append]
    exact t.closed.append (closed_renderSequence s)

theorem closed_renderFrom (index : Nat) :
    ∀ l : List (List Token), Closed (renderFrom index l).toList
  | [] => Flat.nil.closed
  | s :: l => by
    have hcomma : Flat (if index = 0 then "" else ", ").toList := by
      split <;> exact .of_unnoticed (by decide)
    rw [renderFrom, String.toList_append, String.toList_append]
    exact (hcomma.closed.append (closed_renderSequence s)).append (closed_renderFrom _ l)
end

theorem closed_renderList (list : SelectorList) : Closed (renderList list).toList := by
  rw [renderList_eq]
  exact closed_renderFrom 0 list

namespace Reporter

/-- Printed text is closed. In that of a pseudo-class with an argument, the first parenthesis that
counts is closed by the last character. -/
theorem printedText_closed :
    (∀ (r : Reporter) (list : SelectorList), ∃ text r', r.printList list = .ok (text, r') ∧
      Closed text.toList) ∧
    (∀ (r : Reporter) (t : Token), ∃ text r', r.printToken t = .ok (text, r') ∧
      Closed text.toList) ∧
    ∀ (r : Reporter) (name : String) (p : Argument), p ≠ .absent →
      ∃ text r', r.printToken (.pseudo name p) = .ok (text, r') ∧
        ∃ start body, text.toList = start ++ '(' :: (body ++ [')']) ∧ Flat start ∧
          Closed body := by
  refine ⟨fun r list => ⟨_, _, r.printList_eq list, closed_renderList list⟩,
    fun r t => ⟨_, _, r.printToken_eq t, t.closed⟩, fun r name p hp => ?_⟩
  obtain ⟨body, hbody, hclosed⟩ := p.parenthesized hp
  refine ⟨_, _, r.printToken_eq _, _, body, ?_, Token.flat_pseudo name, hclosed⟩
  rw [Token.render, String.toList_append, String.toList_append, hbody]
  rfl

/-- Parentheses in a name, in a value and around the list inside. -/
theorem printedText_closed_is : (Argument.selectors
    [[.tag ")" none, .attribute { name := "a", action := .equals, value := "(" }]]) ≠ .absent ∧
    ∃ text r', printToken {} (.pseudo "is(" (.selectors
        [[.tag ")" none, .attribute { name := "a", action := .equals, value := "(" }]])) =
      .ok (text, r') ∧
      ∃ start body, text.toList = start ++ '(' :: (body ++ [')']) ∧ Flat start ∧ Closed body :=
  ⟨nofun, printedText_closed.2.2 {} "is(" _ nofun⟩

end Reporter

end Selectors
