import Selectors.Proofs.Qualified

namespace Selectors

set_option autoImplicit true

/-- Agree on all that is written. -/
structure Attribute.Agrees (a b : Attribute) : Prop where
  name : a.name = b.name
  ns : a.ns = b.ns
  action : a.action = b.action
  compared : a.action ≠ .present → a.value = b.value ∧ a.caseMode = b.caseMode

theorem Attribute.Agrees.eq {a b : Attribute} (h : a.Agrees b) (ha : a.action ≠ .present) :
    a = b := by
  obtain ⟨name, action, value, ns, mode⟩ := a
  obtain ⟨name', action', value', ns', mode'⟩ := b
  obtain ⟨rfl, rfl, rfl, hcompared⟩ := h
  obtain ⟨rfl, rfl⟩ := hcompared ha
  rfl

theorem Attribute.Agrees.written_eq {a b : Attribute} (h : a.Agrees b) :
    a.written = b.written := by
  by_cases ha : a.action = .present
  · simp [Attribute.written, ha, h.action ▸ ha, h.name, h.ns]
  · rw [h.eq ha]

theorem value_append_inj {m n : CaseMode}
    (h : (CharClass.attributeValue.escape v).toList ++ '"' :: (m.suffix.toList ++ ']' :: x) =
      (CharClass.attributeValue.escape w).toList ++ '"' :: (n.suffix.toList ++ ']' :: y)) :
    v = w ∧ m = n ∧ x = y := by
  obtain ⟨hvw, he⟩ := CharClass.delimited_append_inj (C := .attributeValue) rfl rfl (by decide) h
  refine ⟨hvw, ?_⟩
  cases m <;> cases n <;> simp [CaseMode.suffix] at he ⊢ <;> exact he

theorem symbol_append_inj {a b : Action} (ha : a.symbol = .ok s) (hb : b.symbol = .ok t)
    (h : s.toList ++ '=' :: x = t.toList ++ '=' :: y) : a = b ∧ x = y := by
  cases a <;> cases ha <;> cases b <;> cases hb <;> simp_all

theorem symbol_not_end {a : Action} (ha : a.symbol = .ok s) :
    ']' :: x ≠ s.toList ++ '=' :: y := by
  cases a <;> cases ha <;> simp

/-- Each operator but the empty one is a mark, and only that of `hyphen` is a bar. -/
theorem symbol_cases {a : Action} (h : a.symbol = .ok s) : s.toList = [] ∨
    ∃ c, s.toList = [c] ∧ Marks c ∧ c ≠ '"' ∧ (c = '|' → a = .hyphen) := by
  cases a <;> cases h <;> first
    | exact .inl rfl
    | exact .inr ⟨_, rfl, by decide, by decide, by decide⟩

theorem symbol_error {a : Action} (ha : a.symbol = .error e) : a = .present := by
  cases a <;> cases ha
  rfl

namespace Attribute

theorem condition_append {a : Attribute} (h : a.action.symbol = .ok s) (x : List Char) :
    a.condition.toList ++ ']' :: x =
      s.toList ++ '=' :: '"' :: ((CharClass.attributeValue.escape a.value).toList ++
        '"' :: (a.caseMode.suffix.toList ++ ']' :: x)) := by
  simp [condition, h]

theorem no_condition_append {a : Attribute} (h : a.action.symbol = .error e) (x : List Char) :
    a.condition.toList ++ x = x := by
  simp [condition, h]

end Attribute

/-- A condition tells all of its attribute that is written behind the name. -/
theorem condition_append_inj {a b : Attribute}
    (h : a.condition.toList ++ ']' :: x = b.condition.toList ++ ']' :: y) :
    a.action = b.action ∧
      (a.action ≠ .present → a.value = b.value ∧ a.caseMode = b.caseMode) ∧ x = y := by
  cases hsa : a.action.symbol with
  | error e =>
    cases hsb : b.action.symbol with
    | error e' =>
      rw [Attribute.no_condition_append hsa, Attribute.no_condition_append hsb] at h
      have ha := symbol_error hsa
      exact ⟨ha.trans (symbol_error hsb).symm, fun hne => (hne ha).elim, (List.cons.inj h).2⟩
    | ok t =>
      rw [Attribute.no_condition_append hsa, Attribute.condition_append hsb] at h
      exact (symbol_not_end hsb h).elim
  | ok s =>
    cases hsb : b.action.symbol with
    | error e =>
      rw [Attribute.condition_append hsa, Attribute.no_condition_append hsb] at h
      exact (symbol_not_end hsa h.symm).elim
    | ok t =>
      rw [Attribute.condition_append hsa, Attribute.condition_append hsb] at h
      obtain ⟨haction, he⟩ := symbol_append_inj hsa hsb h
      obtain ⟨hvalue, hmode, hxy⟩ := value_append_inj (List.cons.inj he).2
      exact ⟨haction, fun _ => ⟨hvalue, hmode⟩, hxy⟩

theorem condition_ends (a : Attribute) (x : List Char) :
    EndsAt Marks (a.condition.toList ++ ']' :: x) := by
  cases hs : a.action.symbol with
  | error e =>
    rw [a.no_condition_append hs]
    exact .of_mark (by decide) (by decide)
  | ok s =>
    rw [a.condition_append hs]
    rcases symbol_cases hs with he | ⟨c, he, hmark, hquote, -⟩
    · rw [he]
      exact .assign _
    · rw [he]
      exact .of_mark hmark hquote

theorem condition_ends_name (a : Attribute) (x : List Char) :
    EndsName (a.condition.toList ++ ']' :: x) :=
  endsName_iff.mpr ((condition_ends a x).mono fun _ hc => hc.breaks)

theorem condition_unbarred (a : Attribute) (x : List Char) :
    Unbarred (a.condition.toList ++ ']' :: x) := by
  intro y hy
  cases hs : a.action.symbol with
  | error e =>
    rw [a.no_condition_append hs] at hy
    cases hy
  | ok s =>
    rw [a.condition_append hs] at hy
    rcases symbol_cases hs with he | ⟨c, he, -⟩ <;> rw [he] at hy <;> cases hy
    exact ⟨_, rfl⟩

theorem Attribute.shorthand_cases {a : Attribute} (h : a.shorthand? = some mark) :
    mark = "#" ∧ a = .ofId a.value ∨ mark = "." ∧ a = .ofClass a.value := by
  obtain ⟨name, action, value, ns, mode⟩ := a
  simp only [shorthand?] at h
  split at h
  · rename_i hplain
    obtain ⟨rfl, rfl⟩ := hplain
    split at h
    · rename_i hid
      obtain ⟨rfl, rfl⟩ := hid
      exact .inl ⟨(Option.some.inj h).symm, rfl⟩
    · split at h
      · rename_i hclass
        obtain ⟨rfl, rfl⟩ := hclass
        exact .inr ⟨(Option.some.inj h).symm, rfl⟩
      · cases h
  · cases h

theorem Attribute.shorthand_append {a : Attribute} (h : a.shorthand? = some mark) (x : List Char) :
    a.render.toList ++ x =
      mark.toList ++ ((CharClass.name.escape a.value).toList ++ x) := by
  rw [render, h, String.toList_append, List.append_assoc]

/-- Two shorthands with one text have one mark, and differ in nothing but the value. -/
theorem Attribute.shorthand_append_cases {a b : Attribute} (hsa : a.shorthand? = some mark)
    (hsb : b.shorthand? = some mark') (h : a.render.toList ++ x = b.render.toList ++ y) :
    (CharClass.name.escape a.value).toList ++ x = (CharClass.name.escape b.value).toList ++ y ∧
      (a.value = b.value → a = b) := by
  rw [shorthand_append hsa, shorthand_append hsb] at h
  rcases shorthand_cases hsa with ⟨rfl, ha⟩ | ⟨rfl, ha⟩ <;>
    rcases shorthand_cases hsb with ⟨rfl, hb⟩ | ⟨rfl, hb⟩
  · exact ⟨List.append_cancel_left h, fun hv => by rw [ha, hb, hv]⟩
  · simp at h
  · simp at h
  · exact ⟨List.append_cancel_left h, fun hv => by rw [ha, hb, hv]⟩

theorem Attribute.bracket_append {a : Attribute} (h : a.shorthand? = none) (x : List Char) :
    a.render.toList ++ x =
      '[' :: ((renderNamespace a.ns).toList ++
        ((renderLocal (some a.name)).toList ++ (a.condition.toList ++ ']' :: x))) := by
  simp [render, h, renderLocal]

theorem not_bracket_shorthand {a b : Attribute} (hsa : a.shorthand? = none)
    (hsb : b.shorthand? = some mark) : a.render.toList ++ x ≠ b.render.toList ++ y := by
  rw [Attribute.bracket_append hsa, Attribute.shorthand_append hsb]
  rcases Attribute.shorthand_cases hsb with ⟨rfl, -⟩ | ⟨rfl, -⟩ <;> simp

end Selectors
