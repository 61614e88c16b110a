import Selectors.Proofs.Attributes

namespace Selectors

set_option autoImplicit true

/-- A combinator with its own spacing. -/
inductive Spacing : Combinator → String → Prop
  | child : Spacing .child " > "
  | parent : Spacing .parent " < "
  | sibling : Spacing .sibling " ~ "
  | adjacent : Spacing .adjacent " + "
  | descendant : Spacing .descendant " "
  | column : Spacing .column " || "

/-- What an action that compares a value has before the equals sign. -/
inductive Comparison : Action → String → Prop
  | equals : Comparison .equals ""
  | element : Comparison .element "~"
  | startsWith : Comparison .startsWith "^"
  | endsWith : Comparison .endsWith "$"
  | contains : Comparison .contains "*"
  | differs : Comparison .differs "!"
  | hyphen : Comparison .hyphen "|"

/-- What a case mode has behind the closing quote. -/
inductive CaseFlag : CaseMode → String → Prop
  | unflagged : CaseFlag .unflagged ""
  | insensitive : CaseFlag .insensitive " i"
  | sensitive : CaseFlag .sensitive " s"

theorem spacing_iff : Spacing c text ↔ c.render = text := by
  constructor
  · intro h
    cases h <;> rfl
  · rintro rfl
    cases c <;> constructor

theorem comparison_iff {a : Action} : Comparison a symbol ↔ a.symbol = .ok symbol := by
  constructor
  · intro h
    cases h <;> rfl
  · intro h
    cases a <;> cases h <;> constructor

theorem caseFlag_iff {m : CaseMode} : CaseFlag m flag ↔ m.suffix = flag := by
  constructor
  · intro h
    cases h <;> rfl
  · rintro rfl
    cases m <;> constructor

/-- The rules of the written form: what the text of a whole is, given the texts of its parts. -/
structure Composes (space : Option String → String) (token : Token → String)
    (sequence : Sequence → String) (list : SelectorList → String) : Prop where
  joined l : list l = ", ".intercalate (l.map sequence)
  concatenated s : sequence s = String.join (s.map token)
  unprefixed : space none = ""
  wildcard : space (some "*") = "*|"
  prefixed ns (h : ns ≠ "*") : space (some ns) = CharClass.name.escape ns ++ "|"
  combinator c text (h : Spacing c text) : token (.combinator c) = text
  universal ns : token (.universal ns) = space ns ++ "*"
  tag name ns : token (.tag name ns) = space ns ++ CharClass.name.escape name
  pseudoElement name : token (.pseudoElement name) = "::" ++ CharClass.name.escape name
  pseudo name : token (.pseudo name .absent) = ":" ++ CharClass.name.escape name
  text name s : token (.pseudo name (.text s)) =
    ":" ++ CharClass.name.escape name ++ "(" ++ CharClass.pseudoValue.escape s ++ ")"
  selectors name l : token (.pseudo name (.selectors l)) =
    ":" ++ CharClass.name.escape name ++ "(" ++ list l ++ ")"
  id value : token (.attribute (.ofId value)) = "#" ++ CharClass.name.escape value
  ofClass value : token (.attribute (.ofClass value)) = "." ++ CharClass.name.escape value
  present a (h : a.action = .present) : token (.attribute a) =
    "[" ++ space a.ns ++ CharClass.name.escape a.name ++ "]"
  compared a symbol flag (h : Comparison a.action symbol) (hflag : CaseFlag a.caseMode flag)
      (hid : a ≠ .ofId a.value) (hclass : a ≠ .ofClass a.value) : token (.attribute a) =
    "[" ++ space a.ns ++ CharClass.name.escape a.name ++ symbol ++ "=\"" ++
      CharClass.attributeValue.escape a.value ++ "\"" ++ flag ++ "]"

theorem renderSequence_eq_join (s : Sequence) :
    renderSequence s = String.join (s.map Token.render) := by
  induction s with
  | nil => rfl
  | cons t s ih => rw [renderSequence, List.map_cons, String.join_cons, ih]

theorem renderSequences_eq_map (l : SelectorList) : renderSequences l = l.map renderSequence := by
  induction l with
  | nil => rfl
  | cons s l ih => rw [renderSequences, List.map_cons, ih]

theorem Attribute.render_compared {a : Attribute} (h : a.action.symbol = .ok symbol)
    (hid : a ≠ .ofId a.value) (hclass : a ≠ .ofClass a.value) :
    a.render = "[" ++ renderNamespace a.ns ++ CharClass.name.escape a.name ++ symbol ++ "=\"" ++
      CharClass.attributeValue.escape a.value ++ "\"" ++ a.caseMode.suffix ++ "]" := by
  cases hs : a.shorthand? with
  | some mark =>
    rcases shorthand_cases hs with ⟨-, ha⟩ | ⟨-, ha⟩
    · exact (hid ha).elim
    · exact (hclass ha).elim
  | none => simp [render, hs, condition, h, String.append_assoc]

theorem renderNamespace_named {ns : String} (h : ns ≠ "*") :
    renderNamespace (some ns) = CharClass.name.escape ns ++ "|" := by
  have hany : ns ≠ anyNamespace := h
  rw [renderNamespace, if_neg hany]

theorem render_composes : Composes renderNamespace Token.render renderSequence renderList where
  joined l := by rw [renderList, renderSequences_eq_map]
  concatenated := renderSequence_eq_join
  unprefixed := rfl
  wildcard := rfl
  prefixed ns h := renderNamespace_named h
  combinator c text h := spacing_iff.mp h
  universal ns := rfl
  tag name ns := rfl
  pseudoElement name := rfl
  pseudo name := by rw [Token.render, Argument.render, String.append_empty]
  text name s := by simp only [Token.render, Argument.render, String.append_assoc]
  selectors name l := by simp only [Token.render, Argument.render, renderList, String.append_assoc]
  id value := rfl
  ofClass value := rfl
  present a h := Attribute.render_present h
  compared a symbol flag h hflag hid hclass := by
    rw [Token.render, Attribute.render_compared (comparison_iff.mp h) hid hclass,
      caseFlag_iff.mp hflag]

namespace Composes

variable {space space' : Option String → String} {token token' : Token → String}
  {sequence sequence' : Sequence → String} {list list' : SelectorList → String}

theorem space_unique (h : Composes space token sequence list)
    (h' : Composes space' token' sequence' list') (ns : Option String) : space ns = space' ns := by
  cases ns with
  | none => rw [h.unprefixed, h'.unprefixed]
  | some ns =>
    by_cases hns : ns = "*"
    · rw [hns, h.wildcard, h'.wildcard]
    · rw [h.prefixed ns hns, h'.prefixed ns hns]

theorem attribute_unique (h : Composes space token sequence list)
    (h' : Composes space' token' sequence' list') (a : Attribute) :
    token (.attribute a) = token' (.attribute a) := by
  have hspace := space_unique h h' a.ns
  cases hs : a.action.symbol with
  | error e =>
    have ha := symbol_error hs
    rw [h.present a ha, h'.present a ha, hspace]
  | ok symbol =>
    by_cases hid : a = .ofId a.value
    · rw [hid, h.id, h'.id]
    · by_cases hclass : a = .ofClass a.value
      · rw [hclass, h.ofClass, h'.ofClass]
      · have hsymbol := comparison_iff.mpr hs
        have hflag : CaseFlag a.caseMode a.caseMode.suffix := caseFlag_iff.mpr rfl
        rw [h.compared a symbol _ hsymbol hflag hid hclass,
          h'.compared a symbol _ hsymbol hflag hid hclass, hspace]

mutual
/-- By recursion on the tree, like the rules: a text of a token needs that of the list inside. -/
theorem token_unique (h : Composes space token sequence list)
    (h' : Composes space' token' sequence' list') : ∀ t : Token, token t = token' t
  | .combinator c => by
    have hc : Spacing c c.render := spacing_iff.mpr rfl
    rw [h.combinator c _ hc, h'.combinator c _ hc]
  | .universal ns => by rw [h.universal, h'.universal, space_unique h h' ns]
  | .tag name ns => by rw [h.tag, h'.tag, space_unique h h' ns]
  | .pseudoElement name => by rw [h.pseudoElement, h'.pseudoElement]
  | .pseudo name .absent => by rw [h.pseudo, h'.pseudo]
  | .pseudo name (.text s) => by rw [h.text, h'.text]
  | .pseudo name (.selectors l) => by
    rw [h.selectors, h'.selectors, h.joined, h'.joined, map_sequence_unique h h' l]
  | .attribute a => attribute_unique h h' a

theorem map_token_unique (h : Composes space token sequence list)
    (h' : Composes space' token' sequence' list') : ∀ s : List Token, s.map token = s.map token'
  | [] => rfl
  | t :: s => by
    rw [List.map_cons, List.map_cons, token_unique h h' t, map_token_unique h h' s]

theorem map_sequence_unique (h : Composes space token sequence list)
    (h' : Composes space' token' sequence' list') :
    ∀ l : List (List Token), l.map sequence = l.map sequence'
  | [] => rfl
  | s :: l => by
    rw [List.map_cons, List.map_cons, h.concatenated, h'.concatenated, map_token_unique h h' s,
      map_sequence_unique h h' l]
end

end Composes

/-- The rules leave no choice. -/
theorem composes_iff {space : Option String → String} {token : Token → String}
    {sequence : Sequence → String} {list : SelectorList → String} :
    Composes space token sequence list ↔ space = renderNamespace ∧ token = Token.render ∧
      sequence = renderSequence ∧ list = renderList := by
  constructor
  · intro h
    have hspace : space = renderNamespace := funext (h.space_unique render_composes)
    have htoken : token = Token.render := funext (h.token_unique render_composes)
    have hsequence : sequence = renderSequence := by
      funext s
      rw [h.concatenated, renderSequence_eq_join, htoken]
    refine ⟨hspace, htoken, hsequence, ?_⟩
    funext l
    rw [h.joined, render_composes.joined, hsequence]
  · rintro ⟨rfl, rfl, rfl, rfl⟩
    exact render_composes

theorem renderSequence_append (s t : Sequence) :
    renderSequence (s ++ t) = renderSequence s ++ renderSequence t := by
  simp only [renderSequence_eq_join, List.map_append, String.join_append]

theorem renderList_append {a b : SelectorList} (ha : a ≠ []) (hb : b ≠ []) :
    renderList (a ++ b) = renderList a ++ ", " ++ renderList b := by
  have hne {l : SelectorList} (hl : l ≠ []) : l.map renderSequence ≠ [] := by simpa using hl
  simp only [renderList, renderSequences_eq_map, List.map_append]
  exact String.intercalate_append_of_ne_nil (hne ha) (hne hb)

/-- The buffer stays in front of the text, whatever it holds. -/
def Appends (print : Printer → Except Defect Printer) (text : String) : Prop :=
  ∀ p, ∃ r, print p = .ok { buffer := p.buffer ++ text, reporter := r }

/-- The call gives the text, whatever it reports. -/
def Gives (printed : Except Defect (String × Reporter)) (text : String) : Prop :=
  ∃ r, printed = .ok (text, r)

/-- Printing into a buffer appends to it exactly the text that the rules compose from the parts.
So nothing stands between the texts of two sequences, and one comma between those of two lists. -/
theorem printing_appends :
    (∀ space token sequence list, Composes space token sequence list ↔
      space = renderNamespace ∧ token = Token.render ∧ sequence = renderSequence ∧
        list = renderList) ∧
    (∀ l : SelectorList, Appends (printList l 0) (renderList l)) ∧
    (∀ s : Sequence, Appends (printSequence s) (renderSequence s)) ∧
    (∀ t : Token, Appends t.print t.render) ∧
    (∀ (r q u : Reporter) (s t : Sequence), ∃ x y, Gives (r.printSequence s) x ∧
      Gives (q.printSequence t) y ∧ Gives (u.printSequence (s ++ t)) (x ++ y)) ∧
    ∀ (r q u : Reporter) (a b : SelectorList), a ≠ [] → b ≠ [] → ∃ x y,
      Gives (r.printList a) x ∧ Gives (q.printList b) y ∧
        Gives (u.printList (a ++ b)) (x ++ ", " ++ y) := by
  refine ⟨fun _ _ _ _ => composes_iff, fun l p => ?_, fun s p => ⟨_, printSequence_eq p s⟩,
    fun t p => ⟨_, t.print_eq p⟩, fun r q u s t => ?_, fun r q u a b ha hb => ?_⟩
  · rw [printList_eq, ← renderList_eq]
    exact ⟨_, rfl⟩
  · refine ⟨_, _, ⟨_, r.printSequence_eq s⟩, ⟨_, q.printSequence_eq t⟩, ?_⟩
    rw [← renderSequence_append]
    exact ⟨_, u.printSequence_eq (s ++ t)⟩
  · refine ⟨_, _, ⟨_, r.printList_eq a⟩, ⟨_, q.printList_eq b⟩, ?_⟩
    rw [← renderList_append ha hb]
    exact ⟨_, u.printList_eq (a ++ b)⟩

/-- Lists that end or begin with an empty sequence, and so with a comma. -/
theorem printing_appends_empty :
    ([[.tag "a" none], []] : SelectorList) ≠ [] ∧ ([[]] : SelectorList) ≠ [] ∧ ∃ x y,
      Gives (({} : Reporter).printList [[.tag "a" none], []]) x ∧
        Gives (({} : Reporter).printList [[]]) y ∧
        Gives (({} : Reporter).printList [[.tag "a" none], [], []]) (x ++ ", " ++ y) :=
  ⟨nofun, nofun, printing_appends.2.2.2.2.2 {} {} {} [[.tag "a" none], []] [[]] nofun nofun⟩

end Selectors
