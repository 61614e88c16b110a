import Selectors.Proofs.Combinators

namespace Selectors

set_option autoImplicit true

/-- The steps push no other tokens as a whole than these combinators. -/
def Pushes (steps : List Step) (cs : List Combinator) : Prop :=
  ∀ t, .token t ∈ steps → ∃ c ∈ cs, t = .combinator c

theorem Pushes.append (h : Pushes steps cs) (h' : Pushes rest ds) :
    Pushes (steps ++ rest) (cs ++ ds) := by
  intro t ht
  rcases List.mem_append.mp ht with ht | ht
  · obtain ⟨c, hc, he⟩ := h t ht
    exact ⟨c, List.mem_append_left ds hc, he⟩
  · obtain ⟨c, hc, he⟩ := h' t ht
    exact ⟨c, List.mem_append_right cs hc, he⟩

theorem Pushes.nil : Pushes [] [] :=
  nofun

theorem Pushes.cons (ha : ∀ t, a ≠ .token t) (h : Pushes steps cs) : Pushes (a :: steps) cs := by
  intro t ht
  rcases List.mem_cons.mp ht with he | ht
  · exact (ha t he.symm).elim
  · exact h t ht

theorem pushes_namespaceScript (ns : Option String) : Pushes (namespaceScript ns) [] := by
  cases ns with
  | none => exact .nil
  | some ns => exact .cons nofun .nil

mutual
theorem Token.pushes : ∀ t : Token, Pushes t.script t.combinators
  | .combinator c => by
    intro t ht
    exact ⟨c, .head _, Step.token.inj (List.mem_singleton.mp ht)⟩
  | .universal ns => .cons nofun (pushes_namespaceScript ns)
  | .tag name ns => .cons nofun (pushes_namespaceScript ns)
  | .pseudoElement name => .cons nofun .nil
  | .pseudo name argument => .cons nofun argument.pushes
  | .attribute a => .cons nofun (.cons nofun (pushes_namespaceScript a.ns))

theorem Argument.pushes : ∀ p : Argument, Pushes p.script p.combinators
  | .absent => .nil
  | .text s => .cons nofun .nil
  | .selectors list => by
    have hfirst : Pushes [.universal, .pop] [] := .cons nofun (.cons nofun .nil)
    have hclose : Pushes [.closeList] [] := .cons nofun .nil
    have h := (list_pushes hfirst list).append hclose
    rw [List.append_nil] at h
    exact .cons nofun h

theorem sequence_pushes : ∀ s : List Token, Pushes (sequenceScript s) (sequenceCombinators s)
  | [] => .nil
  | t :: s => t.pushes.append (sequence_pushes s)

theorem list_pushes (hfirst : Pushes first []) : ∀ list : List (List Token),
    Pushes (listScript first list) (listCombinators list)
  | [] => .nil
  | s :: list => by
    have hcomma : Pushes [.comma] [] := .cons nofun .nil
    exact (hfirst.append (sequence_pushes s)).append (list_pushes hcomma list)
end

namespace Builder

theorem run_script (list : SelectorList) : run (listScript [.universal, .pop] list) {} =
    .ok { current := list } :=
  list_turns [] (fun _ => rfl) list []

theorem combinators_eq_nil (h : run steps {} = .ok { current := list })
    (hsteps : ∀ t, .token t ∉ steps) : listCombinators list = [] := by
  have hnone : steps.flatMap Step.combinators = [] := by
    rw [List.flatMap_eq_nil_iff]
    intro a ha
    cases a with
    | token t => exact (hsteps t ha).elim
    | _ => rfl
  have hrun := combinators_run h
  rw [hnone, List.append_nil] at hrun
  have hlist : listCombinators list ⊆ combinators {} := fun c hc =>
    hrun (List.mem_append_left _ hc)
  exact List.subset_nil.mp hlist

/-- Every list is the result of steps, of which some push whole tokens only where the list has
combinators. -/
theorem expressible_iff (list : SelectorList) :
    (∃ steps, run steps {} = .ok { current := list } ∧ Pushes steps (listCombinators list)) ∧
      ((∃ steps, run steps {} = .ok { current := list } ∧ ∀ t, .token t ∉ steps) ↔
        listCombinators list = []) := by
  have hfirst : Pushes [.universal, .pop] [] := .cons nofun (.cons nofun .nil)
  have hpushes := list_pushes hfirst list
  have hplain (hnone : listCombinators list = []) :
      ∀ t, .token t ∉ listScript [.universal, .pop] list := by
    intro t ht
    obtain ⟨c, hc, -⟩ := hpushes t ht
    rw [hnone] at hc
    cases hc
  exact ⟨⟨_, run_script list, hpushes⟩, fun ⟨_, h, hsteps⟩ => combinators_eq_nil h hsteps,
    fun hnone => ⟨_, run_script list, hplain hnone⟩⟩

/-- No other step makes a combinator. -/
theorem not_expressible_child :
    ¬ ∃ steps, run steps {} = .ok { current := [[.combinator .child]] } ∧
      ∀ t, .token t ∉ steps := by
  intro hexists
  obtain ⟨steps, h, hsteps⟩ := hexists
  cases combinators_eq_nil h hsteps

end Builder

end Selectors
