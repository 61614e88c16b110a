import Selectors.Proofs.Printing
import Selectors.Proofs.Qualified
import Selectors.Proofs.Unescaping

namespace Selectors

set_option autoImplicit true

/-- Every element, or those of a name. -/
def Token.element (ns : Option String) : Option String → Token
  | none => .universal ns
  | some name => .tag name ns

theorem Token.element_render (ns k : Option String) :
    (element ns k).render.toList = (renderNamespace ns).toList ++ (renderLocal k).toList := by
  cases k <;> simp only [element, render, renderLocal, String.toList_append]

theorem Token.IsElement.eq_element {t : Token} (h : t.IsElement) : ∃ ns k, t = .element ns k := by
  cases t with
  | universal ns => exact ⟨ns, none, rfl⟩
  | tag name ns => exact ⟨ns, some name, rfl⟩
  | _ => exact h.elim

theorem star_ne_name (name : String) : ['*'] ≠ (CharClass.name.escape name).toList := by
  intro h
  have he : ['*'] = (CharClass.name.escape name).toList ++ [] := by
    rw [List.append_nil, h]
  obtain ⟨-, hnil⟩ := star_eq_name .nil he
  cases hnil

theorem renderLocal_inj {k l : Option String}
    (h : (renderLocal k).toList = (renderLocal l).toList) : k = l := by
  cases k with
  | none =>
    cases l with
    | none => rfl
    | some name => exact (star_ne_name name h).elim
  | some name =>
    cases l with
    | none => exact (star_ne_name name h.symm).elim
    | some name' => exact congrArg some (CharClass.escape_inj.mp (String.toList_inj.mp h))

/-- The bar behind a namespace is written without a backslash, and a local part has none such. -/
theorem local_ne_namespace (k : Option String) (n : String) (y : List Char) :
    (renderLocal k).toList ≠ (renderNamespace (some n)).toList ++ y := by
  intro h
  cases k with
  | none =>
    have he := (escape_empty_append ['*']).trans h
    rcases name_eq_namespace (.star []) he with ⟨-, hx⟩ | ⟨-, -, hx⟩ <;> cases hx
  | some name =>
    have he : (CharClass.name.escape name).toList ++ [] =
        (renderNamespace (some n)).toList ++ y := by
      rw [List.append_nil]
      exact h
    rcases name_eq_namespace .nil he with ⟨-, hx⟩ | ⟨-, -, hx⟩ <;> cases hx

theorem element_inj {m n k l : Option String}
    (h : (renderNamespace m).toList ++ (renderLocal k).toList =
      (renderNamespace n).toList ++ (renderLocal l).toList) : m = n ∧ k = l := by
  cases m with
  | none =>
    cases n with
    | none => exact ⟨rfl, renderLocal_inj h⟩
    | some n => exact (local_ne_namespace k n _ h).elim
  | some m =>
    cases n with
    | none => exact (local_ne_namespace l m _ h.symm).elim
    | some n =>
      obtain ⟨rfl, he⟩ := namespace_append_inj h
      exact ⟨rfl, renderLocal_inj he⟩

/-- The text of an element tells its namespace, if it has one, and its name. -/
theorem Reporter.printedToken_element_inj {t u : Token} (ht : t.IsElement) (hu : u.IsElement)
    (r q : Reporter) : r.printedToken t = q.printedToken u ↔ t = u := by
  rw [printedToken_eq_iff]
  obtain ⟨m, k, rfl⟩ := ht.eq_element
  obtain ⟨n, l, rfl⟩ := hu.eq_element
  rw [Token.element_render, Token.element_render]
  constructor
  · intro h
    obtain ⟨rfl, rfl⟩ := element_inj h
    rfl
  · intro h
    rw [← Token.element_render, ← Token.element_render, h]

/-- A star as a name is not the star of every element, a namespace that begins with a star is not
the wildcard, and an empty namespace is not an absent one. -/
theorem Reporter.printedToken_element_inj_star :
    ((Token.tag "*" none).IsElement ∧ (Token.universal none).IsElement ∧
      printedToken {} (.tag "*" none) ≠ printedToken {} (.universal none)) ∧
    ((Token.tag "" (some "*")).IsElement ∧ (Token.tag "" (some "*|")).IsElement ∧
      printedToken {} (.tag "" (some "*")) ≠ printedToken {} (.tag "" (some "*|"))) ∧
    (Token.universal (some "")).IsElement ∧ (Token.universal none).IsElement ∧
      printedToken {} (.universal (some "")) ≠ printedToken {} (.universal none) := by
  refine ⟨⟨trivial, trivial, fun h => ?_⟩, ⟨trivial, trivial, fun h => ?_⟩, trivial, trivial,
    fun h => ?_⟩
  · cases (printedToken_element_inj (by trivial) (by trivial) {} {}).mp h
  · simpa using (printedToken_element_inj (by trivial) (by trivial) {} {}).mp h
  · cases (printedToken_element_inj (by trivial) (by trivial) {} {}).mp h

end Selectors
