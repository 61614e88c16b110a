import Selectors.Proofs.Bracketed
import Selectors.Proofs.Printing
import Selectors.Proofs.Unescaping

namespace Selectors

set_option autoImplicit true

namespace Attribute

/-- The bar of `[n|="v"]` stands behind the namespace `n` of `a`, which has an empty name, and is
the operator of `b`, which has the name `n`. -/
structure SharesBar (a b : Attribute) : Prop where
  ns : a.ns = some b.name
  named : b.name ≠ anyNamespace
  name : a.name = ""
  equals : a.action = .equals
  unprefixed : b.ns = none
  hyphen : b.action = .hyphen
  value : a.value = b.value
  caseMode : a.caseMode = b.caseMode

example : ({ name := "", action := .equals, value := "v", ns := some "n" } : Attribute).SharesBar
    { name := "n", action := .hyphen, value := "v" } :=
  ⟨rfl, by decide, rfl, rfl, rfl, rfl, rfl, rfl⟩

theorem Agrees.refl (a : Attribute) : a.Agrees a :=
  ⟨rfl, rfl, rfl, fun _ => ⟨rfl, rfl⟩⟩

theorem render_present {a : Attribute} (h : a.action = .present) :
    a.render = "[" ++ renderNamespace a.ns ++ CharClass.name.escape a.name ++ "]" := by
  simp [render, shorthand?, condition, Action.symbol, h]

theorem Agrees.render_eq {a b : Attribute} (h : a.Agrees b) : a.render = b.render := by
  by_cases ha : a.action = .present
  · rw [render_present ha, render_present (h.action ▸ ha), h.ns, h.name]
  · rw [h.eq ha]

theorem SharesBar.render_eq {a b : Attribute} (h : a.SharesBar b) : a.render = b.render := by
  have ha : a.shorthand? = none := by simp [shorthand?, h.ns]
  have hb : b.shorthand? = none := by simp [shorthand?, h.hyphen]
  apply String.toList_injective
  simp [render, ha, hb, condition, Action.symbol, h.equals, h.hyphen, h.value, h.caseMode, h.ns,
    h.named, h.name, h.unprefixed, renderNamespace]

theorem condition_not_wildcard (a : Attribute) (x y : List Char) :
    a.condition.toList ++ ']' :: x ≠ '*' :: '|' :: y := by
  intro h
  cases hs : a.action.symbol with
  | error e =>
    rw [a.no_condition_append hs] at h
    cases h
  | ok s =>
    rw [a.condition_append hs] at h
    rcases symbol_cases hs with he | ⟨c, he, -⟩ <;> rw [he] at h <;> cases h

/-- A condition that begins with a bar goes on like one without an operator. -/
theorem condition_bar {a : Attribute} (h : a.condition.toList ++ ']' :: x = '|' :: y) :
    a.action = .hyphen ∧ { a with action := .equals }.condition.toList ++ ']' :: x = y := by
  cases hs : a.action.symbol with
  | error e =>
    rw [a.no_condition_append hs] at h
    cases h
  | ok s =>
    rw [a.condition_append hs] at h
    have he : { a with action := .equals }.condition.toList ++ ']' :: x =
        '=' :: '"' :: ((CharClass.attributeValue.escape a.value).toList ++
          '"' :: (a.caseMode.suffix.toList ++ ']' :: x)) :=
      condition_append (s := "") rfl x
    rcases symbol_cases hs with hsymbol | ⟨c, hsymbol, -, -, hbar⟩ <;> rw [hsymbol] at h
    · cases h
    · obtain ⟨rfl, hy⟩ := List.cons.inj h
      exact ⟨hbar rfl, he.trans hy⟩

theorem unprefixed_append (x : List Char) : (renderNamespace none).toList ++ x = x := rfl

variable {a b : Attribute}

theorem sharesBar_of_append (ha : a.ns = some m) (hb : b.ns = none)
    (h : (renderNamespace (some m)).toList ++
        ((CharClass.name.escape a.name).toList ++ (a.condition.toList ++ [']'])) =
      (CharClass.name.escape b.name).toList ++ (b.condition.toList ++ [']'])) :
    a.SharesBar b := by
  rcases name_eq_namespace (condition_ends b []) h.symm with ⟨-, hx⟩ | ⟨hm, rfl, hx⟩
  · exact (condition_not_wildcard b _ _ hx).elim
  · obtain ⟨hhyphen, he⟩ := condition_bar hx
    obtain ⟨hname, hrest⟩ := name_append_inj (condition_ends _ _) (condition_ends _ _)
      ((escape_empty_append _).trans he)
    obtain ⟨hequals, hvalue, -⟩ := condition_append_inj hrest
    obtain ⟨hvalue, hmode⟩ := hvalue nofun
    exact ⟨ha, hm, hname.symm, hequals.symm, hb, hhyphen, hvalue.symm, hmode.symm⟩

theorem agrees_of_append (hns : a.ns = b.ns)
    (h : (CharClass.name.escape a.name).toList ++ (a.condition.toList ++ [']']) =
      (CharClass.name.escape b.name).toList ++ (b.condition.toList ++ [']'])) : a.Agrees b := by
  obtain ⟨hname, hrest⟩ := name_append_inj (condition_ends a []) (condition_ends b []) h
  obtain ⟨haction, hcompared, -⟩ := condition_append_inj hrest
  exact ⟨hname, hns, haction, hcompared⟩

theorem bracket_cases (hsa : a.shorthand? = none) (hsb : b.shorthand? = none)
    (h : a.render.toList ++ [] = b.render.toList ++ []) :
    a.Agrees b ∨ a.SharesBar b ∨ b.SharesBar a := by
  rw [bracket_append hsa, bracket_append hsb] at h
  simp only [renderLocal, List.cons.injEq, true_and] at h
  cases hna : a.ns with
  | none =>
    rw [hna, unprefixed_append] at h
    cases hnb : b.ns with
    | none =>
      rw [hnb, unprefixed_append] at h
      exact .inl (agrees_of_append (hna.trans hnb.symm) h)
    | some n =>
      rw [hnb] at h
      exact .inr (.inr (sharesBar_of_append hnb hna h.symm))
  | some m =>
    rw [hna] at h
    cases hnb : b.ns with
    | none =>
      rw [hnb, unprefixed_append] at h
      exact .inr (.inl (sharesBar_of_append hna hnb h))
    | some n =>
      rw [hnb] at h
      obtain ⟨rfl, he⟩ := namespace_append_inj h
      exact .inl (agrees_of_append (hna.trans hnb.symm) he)

theorem render_cases (h : a.render.toList = b.render.toList) :
    a.Agrees b ∨ a.SharesBar b ∨ b.SharesBar a := by
  have happ : a.render.toList ++ [] = b.render.toList ++ [] := by rw [h]
  cases hsa : a.shorthand? with
  | none =>
    cases hsb : b.shorthand? with
    | none => exact bracket_cases hsa hsb happ
    | some mark => exact (not_bracket_shorthand hsa hsb happ).elim
  | some mark =>
    cases hsb : b.shorthand? with
    | none => exact (not_bracket_shorthand hsb hsa happ.symm).elim
    | some mark' =>
      obtain ⟨hvalue, hab⟩ := shorthand_append_cases hsa hsb happ
      obtain ⟨hv, -⟩ := name_append_inj .nil .nil hvalue
      rw [hab hv]
      exact .inl (.refl b)

theorem render_eq_iff :
    a.render.toList = b.render.toList ↔ a.Agrees b ∨ a.SharesBar b ∨ b.SharesBar a := by
  refine ⟨render_cases, fun h => ?_⟩
  rcases h with h | h | h
  · rw [h.render_eq]
  · rw [h.render_eq]
  · rw [h.render_eq]

theorem not_present_of_shorthand (h : a.shorthand? = some mark) : a.action ≠ .present := by
  rcases shorthand_cases h with ⟨-, ha⟩ | ⟨-, ha⟩ <;> rw [ha] <;> nofun

theorem not_sharesBar_of_shorthand (h : a.shorthand? = some mark) (b : Attribute) :
    ¬ a.SharesBar b ∧ ¬ b.SharesBar a := by
  rcases shorthand_cases h with ⟨-, ha⟩ | ⟨-, ha⟩ <;> rw [ha] <;>
    exact ⟨fun hs => (nomatch hs.ns), fun hs => (nomatch hs.hyphen)⟩

end Attribute

/-- Two attributes are printed alike if they agree on all that is written, or if one bar is read
in two ways; and a shorthand is printed like no other attribute. -/
theorem Reporter.printedToken_attribute_iff (r q : Reporter) (a b : Attribute) :
    (r.printedToken (.attribute a) = q.printedToken (.attribute b) ↔
      a.Agrees b ∨ a.SharesBar b ∨ b.SharesBar a) ∧
    (a.shorthand?.isSome →
      (r.printedToken (.attribute a) = q.printedToken (.attribute b) ↔ a = b)) := by
  rw [printedToken_eq_iff, Token.render, Token.render, Attribute.render_eq_iff]
  refine ⟨Iff.rfl, fun hs => ?_⟩
  obtain ⟨mark, hmark⟩ := Option.isSome_iff_exists.mp hs
  obtain ⟨hab, hba⟩ := Attribute.not_sharesBar_of_shorthand hmark b
  constructor
  · rintro (h | h | h)
    · exact h.eq (Attribute.not_present_of_shorthand hmark)
    · exact (hab h).elim
    · exact (hba h).elim
  · rintro rfl
    exact .inl (.refl a)

end Selectors
