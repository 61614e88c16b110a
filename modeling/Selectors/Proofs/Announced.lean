import Selectors.Proofs.Bracketed

namespace Selectors

set_option autoImplicit true

namespace Plain

theorem local_head (hS : Plain S) (hk : LocalOver S k) :
    ∃ c z, (renderLocal k).toList = c :: z ∧ (c = '*' ∨ ¬ Breaks c) := by
  cases k with
  | none => exact ⟨'*', [], rfl, .inl rfl⟩
  | some name =>
    obtain ⟨c, z, he, hc⟩ := hS.name_head hk
    exact ⟨c, z, he, .inr hc⟩

theorem element_head (hS : Plain S) (hn : NamespaceOver S ns) (hk : LocalOver S k) :
    ∃ c z, (renderNamespace ns).toList ++ (renderLocal k).toList = c :: z ∧
      (c = '*' ∨ c = '|' ∨ ¬ Breaks c) ∧ (c = '|' → ∃ d w, z = d :: w ∧ d ≠ '|') := by
  have hbar (c : Char) (hc : c = '*' ∨ ¬ Breaks c) : c ≠ '|' := by
    rintro rfl
    rcases hc with hc | hc
    · cases hc
    · exact hc (by decide)
  obtain ⟨c, z, he, hc⟩ := hS.local_head hk
  cases ns with
  | none => exact ⟨c, z, he, hc.imp_right .inr, fun h => (hbar c hc h).elim⟩
  | some n =>
    by_cases ha : n = anyNamespace
    · exact ⟨'*', '|' :: (renderLocal k).toList, by simp [renderNamespace, ha, anyNamespace],
        .inl rfl, by simp⟩
    · by_cases hemp : n = ""
      · refine ⟨'|', (renderLocal k).toList, ?_, .inr (.inl rfl), fun _ => ⟨c, z, he, hbar c hc⟩⟩
        subst n
        rfl
      · obtain ⟨d, w, hd, hb⟩ := hS.name_head ⟨hemp, hn⟩
        refine ⟨d, w ++ '|' :: (renderLocal k).toList, ?_, .inr (.inr hb),
          fun h => (hbar d (.inr hb) h).elim⟩
        simp only [renderNamespace, ha, if_false, String.toList_append, hd]
        simp

end Plain

/-- What kind of part a first character announces. -/
inductive Family
  | combinator
  | element
  | pseudo
  | attribute

def Family.announced (c : Char) : Option Family :=
  if c = ' ' then some .combinator
  else if c = ':' then some .pseudo
  else if c = '[' ∨ c = '#' ∨ c = '.' then some .attribute
  else if c = '*' ∨ c = '|' ∨ ¬ Breaks c then some .element
  else none

def Token.family : Token → Family
  | .combinator _ => .combinator
  | .universal _ | .tag _ _ => .element
  | .pseudoElement _ | .pseudo _ _ => .pseudo
  | .attribute _ => .attribute

theorem Family.announced_element {c : Char} (h : c = '*' ∨ c = '|' ∨ ¬ Breaks c) :
    announced c = some .element := by
  have hne (d : Char) (hd : Breaks d) (hs : d ≠ '*') (hb : d ≠ '|') : c ≠ d := by
    rintro rfl
    rcases h with h | h | h
    · exact hs h
    · exact hb h
    · exact h hd
  have hspace := hne ' ' (by decide) (by decide) (by decide)
  have hcolon := hne ':' (by decide) (by decide) (by decide)
  have hopen := hne '[' (by decide) (by decide) (by decide)
  have hhash := hne '#' (by decide) (by decide) (by decide)
  have hdot := hne '.' (by decide) (by decide) (by decide)
  simp only [announced, hspace, hcolon, hopen, hhash, hdot, h, or_self, if_true, if_false]

/-- Begins like a part of the family; and a bar at the front is not that of a column. -/
def Announces (f : Family) (x : List Char) : Prop :=
  ∃ c z, x = c :: z ∧ Family.announced c = some f ∧ (c = '|' → ∃ d w, z = d :: w ∧ d ≠ '|')

theorem Announces.of_cons (hf : Family.announced c = some f) (hc : c ≠ '|') :
    Announces f (c :: z) :=
  ⟨c, z, rfl, hf, fun h => (hc h).elim⟩

theorem Announces.append (h : Announces f x) (y : List Char) : Announces f (x ++ y) := by
  obtain ⟨c, z, rfl, hf, hb⟩ := h
  refine ⟨c, z ++ y, rfl, hf, fun hc => ?_⟩
  obtain ⟨d, w, rfl, hd⟩ := hb hc
  exact ⟨d, w ++ y, rfl, hd⟩

theorem Announces.unique (h : Announces f x) (h' : Announces g x) : f = g := by
  obtain ⟨c, z, rfl, hf, _⟩ := h
  obtain ⟨d, w, he, hg, _⟩ := h'
  cases he
  exact Option.some.inj (hf.symm.trans hg)

theorem Combinator.announces (c : Combinator) : Announces .combinator c.render.toList := by
  cases c <;> exact .of_cons rfl (by decide)

theorem Attribute.announces (a : Attribute) : Announces .attribute a.render.toList := by
  cases h : a.shorthand? with
  | none =>
    simp only [render, h, String.toList_append, List.append_assoc]
    exact .of_cons rfl (by decide)
  | some mark =>
    simp only [render, h, String.toList_append]
    rcases shorthand_cases h with ⟨rfl, -⟩ | ⟨rfl, -⟩ <;> exact .of_cons rfl (by decide)

theorem Token.Conforms.announces (hS : Plain S) :
    ∀ t : Token, t.Conforms S P → Announces t.family t.render.toList
  | .combinator c, _ => c.announces
  | .universal ns, ht => by
    obtain ⟨c, z, he, hc, hb⟩ := hS.element_head (k := none) ht trivial
    exact ⟨c, z, by rw [← he, render, String.toList_append]; rfl, Family.announced_element hc, hb⟩
  | .tag name ns, ht => by
    obtain ⟨c, z, he, hc, hb⟩ := hS.element_head (k := some name) ht.2 ht.1
    exact ⟨c, z, by rw [← he, render, String.toList_append]; rfl, Family.announced_element hc, hb⟩
  | .pseudoElement name, _ => by
    simp only [render, String.toList_append]
    exact .of_cons rfl (by decide)
  | .pseudo name argument, _ => by
    simp only [render, String.toList_append, List.append_assoc]
    exact .of_cons rfl (by decide)
  | .attribute a, _ => a.announces

/-- What may stand behind a part of a sequence that is no combinator. -/
def EndsPart : List Char → Prop
  | [] => True
  | c :: _ => c ∈ [' ', ',', ':', '[', '.', '#', ')']

theorem EndsPart.name {x : List Char} (h : EndsPart x) : EndsName x := by
  cases x with
  | nil => trivial
  | cons c x =>
    simp only [EndsPart, List.mem_cons, List.not_mem_nil, or_false] at h
    rcases h with rfl | rfl | rfl | rfl | rfl | rfl | rfl <;> exact .inl (by decide)

theorem EndsPart.unbarred {x : List Char} (h : EndsPart x) : Unbarred x := by
  rintro y rfl
  simp [EndsPart] at h

/-- What may stand behind a combinator: with it, a longer one never comes about. -/
def EndsCombinator (x : List Char) : Prop :=
  ∀ (c : Combinator) (y : List Char), c ≠ .descendant → ' ' :: x ≠ c.render.toList ++ y

theorem combinator_append_inj {c d : Combinator} (hx : EndsCombinator x) (hy : EndsCombinator y)
    (h : c.render.toList ++ x = d.render.toList ++ y) : c = d ∧ x = y := by
  by_cases hc : c = .descendant
  · subst c
    by_cases hd : d = .descendant
    · subst d
      exact ⟨rfl, (List.cons.inj h).2⟩
    · exact (hx d y hd h).elim
  · by_cases hd : d = .descendant
    · subst d
      exact (hy c x hc h.symm).elim
    · cases c <;> cases d <;> simp [Combinator.render] at h hc hd ⊢ <;> exact h

theorem endsCombinator_of_head (hx : ∀ c ∈ x.head?, c ∉ ['>', '<', '~', '+', '|']) :
    EndsCombinator x := by
  rintro c y hc h
  cases x with
  | nil => cases c <;> simp [Combinator.render] at h hc
  | cons d x =>
    have hd := hx d rfl
    cases c <;> simp [Combinator.render] at h hc <;> simp [h.1] at hd

theorem Announces.endsCombinator (h : Announces f x) : EndsCombinator x := by
  obtain ⟨c, z, rfl, hf, hb⟩ := h
  by_cases hc : c = '|'
  · obtain ⟨d, w, rfl, hd⟩ := hb hc
    rintro e y he h
    cases e <;> simp [Combinator.render, hc, hd] at h he
  · apply endsCombinator_of_head
    intro d hd hmem
    obtain rfl : c = d := Option.some.inj hd
    simp only [List.mem_cons, List.not_mem_nil, or_false] at hmem
    rcases hmem with rfl | rfl | rfl | rfl | rfl
    · cases hf
    · cases hf
    · cases hf
    · cases hf
    · exact hc rfl

/-- What may stand behind a sequence: nothing, the next one or the end of the argument. -/
def EndsSequence (x : List Char) : Prop :=
  ∀ c ∈ x.head?, c = ',' ∨ c = ')'

theorem EndsSequence.part {x : List Char} (h : EndsSequence x) : EndsPart x := by
  cases x with
  | nil => trivial
  | cons c x => rcases h c rfl with rfl | rfl <;> simp [EndsPart]

theorem EndsSequence.combinator {x : List Char} (h : EndsSequence x) : EndsCombinator x := by
  apply endsCombinator_of_head
  intro c hc
  rcases h c hc with rfl | rfl <;> decide

theorem Announces.not_endsSequence (h : Announces f x) : ¬ EndsSequence x := by
  obtain ⟨c, z, rfl, hf, _⟩ := h
  intro he
  rcases he c rfl with rfl | rfl <;> cases hf

theorem Announces.endsPart (h : Announces f x) (hf : f ≠ .element) : EndsPart x := by
  obtain ⟨c, z, rfl, hc, _⟩ := h
  simp only [Family.announced] at hc
  split at hc
  · simp_all [EndsPart]
  · split at hc
    · simp_all [EndsPart]
    · split at hc
      · rename_i hmark
        rcases hmark with rfl | rfl | rfl <;> simp [EndsPart]
      · split at hc
        · exact (hf (Option.some.inj hc).symm).elim
        · cases hc

end Selectors
