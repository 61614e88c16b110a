import Mathlib.Data.List.Basic
import Selectors.Proofs.Script

namespace Selectors

set_option autoImplicit true

mutual
/-- The combinators at any depth, in the order of the text. -/
def Token.combinators : Token → List Combinator
  | .combinator c => [c]
  | .pseudo _ argument => argument.combinators
  | _ => []

def Argument.combinators : Argument → List Combinator
  | .selectors list => listCombinators list
  | _ => []

def sequenceCombinators : List Token → List Combinator
  | [] => []
  | t :: s => t.combinators ++ sequenceCombinators s

def listCombinators : List (List Token) → List Combinator
  | [] => []
  | s :: l => sequenceCombinators s ++ listCombinators l
end

/-- The combinators that a step brings in. -/
def Step.combinators : Step → List Combinator
  | .token t => t.combinators
  | _ => []

/-- Those of all lists that are open. -/
def Builder.combinators (b : Builder) : List Combinator :=
  (b.current :: b.outer).flatMap listCombinators

@[simp] theorem sequenceCombinators_append (s r : List Token) :
    sequenceCombinators (s ++ r) = sequenceCombinators s ++ sequenceCombinators r := by
  induction s with
  | nil => rfl
  | cons t s ih => simp [sequenceCombinators, ih]

@[simp] theorem listCombinators_append (l m : List (List Token)) :
    listCombinators (l ++ m) = listCombinators l ++ listCombinators m := by
  induction l with
  | nil => rfl
  | cons s l ih => simp [listCombinators, ih]

/-- What comes in anew in the middle may as well come in at the end. -/
theorem append_subset_append (before : List Combinator) (h : cs ⊆ ds ++ new)
    (after : List Combinator) : before ++ cs ++ after ⊆ before ++ ds ++ after ++ new := by
  intro c hc
  simp only [List.mem_append] at hc ⊢
  rcases hc with (hc | hc) | hc
  · exact .inl (.inl (.inl hc))
  · rcases List.mem_append.mp (h hc) with hc | hc
    · exact .inl (.inl (.inr hc))
    · exact .inr hc
  · exact .inl (.inr hc)

namespace Token

theorem combinators_withNamespace (h : withNamespace ns t = .ok u) :
    u.combinators = t.combinators := by
  cases t <;> cases h <;> rfl

theorem combinators_withCaseMode (h : withCaseMode m t = .ok u) :
    u.combinators = t.combinators := by
  cases t <;> cases h
  rfl

theorem combinators_withArgument (h : withArgument p t = .ok u) :
    u.combinators = p.combinators := by
  cases t <;> cases h
  rfl

end Token

namespace SelectorList

theorem combinators_push (t : Token) (l : SelectorList) :
    listCombinators (push t l) = listCombinators l ++ t.combinators := by
  rcases List.eq_nil_or_concat l with rfl | ⟨l, s, rfl⟩
  · simp [push, listCombinators, sequenceCombinators]
  · rw [List.concat_eq_append, push_last]
    simp [listCombinators, sequenceCombinators]

theorem combinators_comma (l : SelectorList) : listCombinators (comma l) = listCombinators l := by
  unfold comma
  split
  · simp_all [listCombinators, sequenceCombinators]
  · simp [listCombinators, sequenceCombinators]

theorem replaceLast_eq_ok {f : Token → Except Problem (List Token)} (h : replaceLast f l = .ok l') :
    ∃ m s t ts, l = m ++ [s ++ [t]] ∧ f t = .ok ts ∧ l' = m ++ [s ++ ts] := by
  unfold replaceLast at h
  split at h
  · cases h
  · rename_i s hs
    split at h
    · cases h
    · rename_i t ht
      obtain ⟨ts, hts, hl⟩ := bind_eq_ok.mp h
      cases hl
      have hl : l = l.dropLast ++ [s.dropLast ++ [t]] := by
        rw [List.dropLast_append_getLast? t ht, List.dropLast_append_getLast? s hs]
      exact ⟨l.dropLast, s.dropLast, t, ts, hl, hts, rfl⟩

theorem combinators_replaceLast {f : Token → Except Problem (List Token)}
    (h : replaceLast f l = .ok l')
    (hf : ∀ t ts, f t = .ok ts → sequenceCombinators ts ⊆ t.combinators ++ cs) :
    listCombinators l' ⊆ listCombinators l ++ cs := by
  obtain ⟨m, s, t, ts, rfl, hts, rfl⟩ := replaceLast_eq_ok h
  have hlast := append_subset_append (listCombinators m ++ sequenceCombinators s) (hf t ts hts) []
  simpa [listCombinators, sequenceCombinators] using hlast

theorem combinators_modifyLast {f : Token → Except Problem Token}
    (h : modifyLast f l = .ok l')
    (hf : ∀ t u, f t = .ok u → u.combinators ⊆ t.combinators ++ cs) :
    listCombinators l' ⊆ listCombinators l ++ cs := by
  apply combinators_replaceLast h
  intro t ts hts
  obtain ⟨u, hu, hsame⟩ := bind_eq_ok.mp hts
  cases hsame
  rw [sequenceCombinators, sequenceCombinators, List.append_nil]
  exact hf t u hu

end SelectorList

namespace Builder

theorem combinators_mono {l l' : SelectorList} (h : listCombinators l' ⊆ listCombinators l ++ cs)
    (lists : List SelectorList) :
    combinators ⟨l', lists⟩ ⊆ combinators ⟨l, lists⟩ ++ cs :=
  append_subset_append [] h (lists.flatMap listCombinators)

theorem combinators_push (h : push t b = (b', none)) :
    b'.combinators ⊆ b.combinators ++ t.combinators := by
  cases h
  apply combinators_mono
  rw [SelectorList.combinators_push]
  exact List.Subset.refl _

theorem combinators_modify (h : modify f b = (b', none))
    (hf : ∀ l, f b.current = .ok l → listCombinators l ⊆ listCombinators b.current ++ cs) :
    b'.combinators ⊆ b.combinators ++ cs := by
  unfold modify at h
  split at h
  · rename_i l hl
    cases h
    exact combinators_mono (hf l hl) b.outer
  · cases h

theorem combinators_modifyLast (h : modify (SelectorList.modifyLast f) b = (b', none))
    (hf : ∀ t u, f t = .ok u → u.combinators ⊆ t.combinators ++ cs) :
    b'.combinators ⊆ b.combinators ++ cs :=
  combinators_modify h fun _ hl => SelectorList.combinators_modifyLast hl hf

theorem combinators_closeList (h : closeList b = (b', none)) : b'.combinators ⊆ b.combinators := by
  obtain ⟨list, outer⟩ := b
  cases outer with
  | nil => cases h
  | cons l outer =>
    have hargument : b'.combinators ⊆ combinators ⟨l, outer⟩ ++ listCombinators list := by
      apply combinators_modifyLast h
      intro t u hu
      rw [Token.combinators_withArgument hu]
      exact List.subset_append_right _ _
    intro c hc
    have hmem := hargument hc
    simp only [combinators, List.flatMap_cons, List.mem_append] at hmem ⊢
    exact or_comm.mp hmem

/-- A step adds no combinators to those of the open lists but its own. -/
theorem combinators_step (h : step a b = (b', none)) :
    b'.combinators ⊆ b.combinators ++ a.combinators := by
  cases a with
  | withNamespace ns =>
    apply combinators_modifyLast h
    intro t u hu
    rw [Token.combinators_withNamespace hu]
    exact List.subset_append_left _ _
  | withCaseMode m =>
    apply combinators_modifyLast h
    intro t u hu
    rw [Token.combinators_withCaseMode hu]
    exact List.subset_append_left _ _
  | withArgument s =>
    apply combinators_modifyLast h
    intro t u hu
    rw [Token.combinators_withArgument hu]
    exact List.nil_subset _
  | openList =>
    cases h
    exact List.subset_append_left _ _
  | closeList =>
    intro c hc
    exact List.mem_append_left _ (combinators_closeList h hc)
  | comma =>
    cases h
    apply combinators_mono
    rw [SelectorList.combinators_comma]
    exact List.subset_append_left _ _
  | pop =>
    apply combinators_modify h
    intro l hl
    apply SelectorList.combinators_replaceLast hl
    intro t ts hts
    cases hts
    exact List.nil_subset _
  | _ => exact combinators_push h

/-- By induction on the steps: all combinators of the lists come from the steps. -/
theorem combinators_run (h : run steps b = .ok b') :
    b'.combinators ⊆ b.combinators ++ steps.flatMap Step.combinators := by
  induction steps generalizing b with
  | nil =>
    cases h
    exact List.subset_append_left _ _
  | cons a steps ih =>
    unfold run at h
    split at h
    · rename_i next hnext
      have hrest := ih h
      have hstep := combinators_step hnext
      intro c hc
      rw [List.flatMap_cons, ← List.append_assoc]
      rcases List.mem_append.mp (hrest hc) with hc | hc
      · exact List.mem_append_left _ (hstep hc)
      · exact List.mem_append_right _ hc
    · cases h

end Builder

end Selectors
