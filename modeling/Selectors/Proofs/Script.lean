import Selectors.Builder
import Selectors.Proofs.Outcome

namespace Selectors

set_option autoImplicit true

/-- The steps in their order, up to the first one that fails. Warnings that are cleared in between
touch no list. -/
def Builder.run : List Step → Builder → Except Problem Builder
  | [], b => .ok b
  | a :: steps, b =>
    match b.step a with
    | (b, none) => run steps b
    | (_, some e) => .error e

theorem Builder.run_append (steps rest : List Step) (b : Builder) :
    run (steps ++ rest) b = run steps b >>= run rest := by
  induction steps generalizing b with
  | nil => rfl
  | cons a steps ih =>
    rw [List.cons_append, run, run]
    cases b.step a with
    | mk b' problem =>
      cases problem with
      | none => exact ih b'
      | some e => rfl

theorem Builder.run_cons (h : step a b = (b', none)) : run (a :: steps) b = run steps b' := by
  rw [run, h]

def namespaceScript : Option String → List Step
  | none => []
  | some ns => [.withNamespace ns]

mutual
/-- The steps that put the token behind what is there already. A list has no comma before its first
sequence, so that this one begins with a token that is taken away again. -/
def Token.script : Token → List Step
  | .combinator c => [.token (.combinator c)]
  | .universal ns => .universal :: namespaceScript ns
  | .tag name ns => .tag name :: namespaceScript ns
  | .pseudoElement name => [.pseudoElement name]
  | .pseudo name argument => .pseudo name :: argument.script
  | .attribute a =>
    .attribute a.name a.action a.value :: .withCaseMode a.caseMode :: namespaceScript a.ns

def Argument.script : Argument → List Step
  | .absent => []
  | .text s => [.withArgument s]
  | .selectors list => .openList :: listScript [.universal, .pop] list ++ [.closeList]

def sequenceScript : List Token → List Step
  | [] => []
  | t :: s => t.script ++ sequenceScript s

/-- Every sequence behind the steps that begin it as an empty one. For all but the first one of a
list that is a comma. -/
def listScript : (first : List Step) → List (List Token) → List Step
  | _, [] => []
  | first, s :: l => first ++ sequenceScript s ++ listScript [.comma] l
end

namespace SelectorList

variable {l : SelectorList} {s : Sequence} {t : Token}

theorem push_last : push t (l ++ [s]) = l ++ [s ++ [t]] := by
  simp [push]

theorem replaceLast_last {f : Token → Except Problem (List Token)} (h : f t = .ok ts) :
    replaceLast f (l ++ [s ++ [t]]) = .ok (l ++ [s ++ ts]) := by
  simp [replaceLast, h]

theorem modifyLast_last {f : Token → Except Problem Token} (h : f t = .ok u) :
    modifyLast f (l ++ [s ++ [t]]) = .ok (l ++ [s ++ [u]]) :=
  replaceLast_last (by simp [h])

theorem comma_last : comma (l ++ [s]) = l ++ [s] ++ [[]] := by
  simp [comma]

end SelectorList

/-- The steps turn one list into another, whatever lists wait around it. -/
def Turns (steps : List Step) (l l' : SelectorList) : Prop :=
  ∀ outer, Builder.run steps ⟨l, outer⟩ = .ok ⟨l', outer⟩

theorem Turns.nil (l : SelectorList) : Turns [] l l :=
  fun _ => rfl

theorem Turns.append (h : Turns steps l l') (h' : Turns rest l' l'') :
    Turns (steps ++ rest) l l'' := by
  intro outer
  rw [Builder.run_append, h outer, ok_bind, h' outer]

theorem Turns.single (h : ∀ outer, Builder.step a ⟨l, outer⟩ = (⟨l', outer⟩, none)) :
    Turns [a] l l' := by
  intro outer
  exact Builder.run_cons (h outer)

theorem Turns.push (h : ∀ b, Builder.step a b = b.push t) (l : SelectorList) (s : Sequence) :
    Turns [a] (l ++ [s]) (l ++ [s ++ [t]]) := by
  apply single
  intro outer
  rw [h, Builder.push, SelectorList.push_last]

theorem Builder.modify_last (h : f t = .ok u) (lists : List SelectorList) :
    modify (SelectorList.modifyLast f) ⟨l ++ [s ++ [t]], lists⟩ =
      (⟨l ++ [s ++ [u]], lists⟩, none) := by
  simp only [modify, SelectorList.modifyLast_last h]

theorem Turns.modify (f : Token → Except Problem Token)
    (h : ∀ b, Builder.step a b = b.modify (SelectorList.modifyLast f))
    (hf : f t = .ok u) (l : SelectorList) (s : Sequence) :
    Turns [a] (l ++ [s ++ [t]]) (l ++ [s ++ [u]]) := by
  apply single
  intro outer
  rw [h, Builder.modify_last hf]

/-- A list that is written in between becomes the argument of the last token. -/
theorem Turns.nested (h : Turns steps [] list) (l : SelectorList) (s : Sequence) :
    Turns (.openList :: steps ++ [.closeList]) (l ++ [s ++ [.pseudo name p]])
      (l ++ [s ++ [.pseudo name (.selectors list)]]) := by
  intro outer
  have hopen (w : SelectorList) : Builder.step .openList ⟨w, outer⟩ = (⟨[], w :: outer⟩, none) :=
    rfl
  have hclose : Builder.step .closeList ⟨list, (l ++ [s ++ [.pseudo name p]]) :: outer⟩ =
      (⟨l ++ [s ++ [.pseudo name (.selectors list)]], outer⟩, none) := by
    have hfits : Token.withArgument (.selectors list) (.pseudo name p) =
        .ok (.pseudo name (.selectors list)) := rfl
    exact Builder.modify_last hfits outer
  rw [List.cons_append, Builder.run_cons (hopen _), Builder.run_append, h, ok_bind]
  exact Builder.run_cons hclose

theorem Turns.namespace (u : Option String → Token) (hnone : t = u none)
    (hsome : ∀ n, t.withNamespace n = .ok (u (some n))) (ns : Option String) (l : SelectorList)
    (s : Sequence) : Turns (namespaceScript ns) (l ++ [s ++ [t]]) (l ++ [s ++ [u ns]]) := by
  cases ns with
  | none =>
    rw [hnone]
    exact .nil _
  | some n => exact .modify (Token.withNamespace n) (fun _ => rfl) (hsome n) l s

mutual
/-- By induction on the tree, behind any tokens and sequences that are already there. -/
theorem Token.turns (l : SelectorList) (s : Sequence) :
    ∀ t : Token, Turns t.script (l ++ [s]) (l ++ [s ++ [t]])
  | .combinator c => .push (fun _ => rfl) l s
  | .universal ns =>
    .append (.push (fun _ => rfl) l s) (.namespace .universal rfl (fun _ => rfl) ns l s)
  | .tag name ns =>
    .append (.push (fun _ => rfl) l s) (.namespace (.tag name) rfl (fun _ => rfl) ns l s)
  | .pseudoElement name => .push (fun _ => rfl) l s
  | .pseudo name argument => .append (.push (fun _ => rfl) l s) (argument.turns name l s)
  | .attribute a => by
    -- The constructor leaves both defaults, which the modifiers replace one after the other.
    have hmode : Turns [.withCaseMode a.caseMode]
        (l ++ [s ++ [.attribute { name := a.name, action := a.action, value := a.value }]])
        (l ++ [s ++ [.attribute { a with ns := none }]]) :=
      .modify (Token.withCaseMode a.caseMode) (fun _ => rfl) rfl l s
    have hns := Turns.namespace (fun ns => .attribute { a with ns }) rfl (fun _ => rfl) a.ns l s
    exact .append (.push (fun _ => rfl) l s) (.append hmode hns)
termination_by structural t => t

theorem Argument.turns (name : String) (l : SelectorList) (s : Sequence) :
    ∀ p : Argument, Turns p.script (l ++ [s ++ [.pseudo name .absent]])
      (l ++ [s ++ [.pseudo name p]])
  | .absent => .nil _
  | .text argument => .modify (Token.withArgument (.text argument)) (fun _ => rfl) rfl l s
  | .selectors list => .nested (list_turns [] (fun _ => rfl) list) l s
termination_by structural p => p

theorem sequence_turns (l : SelectorList) (s : Sequence) :
    ∀ r : List Token, Turns (sequenceScript r) (l ++ [s]) (l ++ [s ++ r])
  | [] => by
    rw [List.append_nil]
    exact .nil _
  | t :: r => by
    have h := sequence_turns l (s ++ [t]) r
    rw [List.append_assoc] at h
    exact (t.turns l s).append h
termination_by structural r => r

theorem list_turns (l : SelectorList) (hfirst : Turns first l (l ++ [[]])) :
    ∀ list : List (List Token), Turns (listScript first list) l (l ++ list)
  | [] => by
    rw [List.append_nil]
    exact .nil l
  | s :: list => by
    have hcomma : Turns [.comma] (l ++ [s]) (l ++ [s] ++ [[]]) := by
      apply Turns.single
      intro outer
      rw [Builder.step, SelectorList.comma_last]
    have hrest := list_turns (l ++ [s]) hcomma list
    rw [List.append_assoc, List.singleton_append] at hrest
    exact (hfirst.append (sequence_turns l [] s)).append hrest
termination_by structural list => list
end

/-- A comma comes with the sequences on both sides, so a lone empty one needs a `pop`. -/
example : Builder.run [.universal, .pop, .comma] {} = .ok { current := [[], []] } := rfl

end Selectors
