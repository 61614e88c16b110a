import Selectors.Proofs.Boundary
import Selectors.Token.Render

namespace Selectors

set_option autoImplicit true

/-- The part of an element behind its namespace: a name, or the star of every element. -/
def renderLocal : Option String → String
  | none => "*"
  | some name => CharClass.name.escape name

def LocalOver (S : Set Char) : Option String → Prop
  | none => True
  | some name => NameOver S name

/-- A bar at the front is a part of an operator and does not close a namespace. -/
def Unbarred (x : List Char) : Prop :=
  ∀ y, x = '|' :: y → ∃ z, y = '=' :: '"' :: z

theorem EndsName.of_breaks (hc : Breaks c) (hq : c ≠ '"') : EndsName (c :: x) :=
  .inl ⟨hc, hq⟩

theorem EndsName.bar (x : List Char) : EndsName ('|' :: x) :=
  .of_breaks (by decide) (by decide)

theorem EndsName.assign (x : List Char) : EndsName ('=' :: '"' :: x) :=
  .inr ⟨rfl, rfl⟩

theorem EndsAt.nil : EndsAt Marks [] :=
  trivial

theorem EndsAt.of_mark (hc : Marks c) (hq : c ≠ '"') : EndsAt Marks (c :: x) :=
  .inl ⟨hc, hq⟩

theorem EndsAt.assign (x : List Char) : EndsAt Marks ('=' :: '"' :: x) :=
  .inr ⟨rfl, rfl⟩

theorem EndsAt.bar (x : List Char) : EndsAt Marks ('|' :: x) :=
  .of_mark (by decide) (by decide)

theorem EndsAt.star (x : List Char) : EndsAt Marks ('*' :: x) :=
  .of_mark (by decide) (by decide)

theorem escape_empty_append (x : List Char) : (CharClass.name.escape "").toList ++ x = x := rfl

/-- No name begins with a bare star, so that one behind which it stands is empty. -/
theorem star_eq_name (hy : EndsAt Marks y)
    (h : '*' :: x = (CharClass.name.escape s).toList ++ y) : s = "" ∧ y = '*' :: x :=
  name_append_inj hy (.star x) (h.symm.trans (escape_empty_append ('*' :: x)).symm)

theorem not_star_namespace : '*' :: x ≠ (CharClass.name.escape n).toList ++ '|' :: y := by
  intro h
  obtain ⟨-, he⟩ := star_eq_name (.bar y) h
  cases he

theorem namespace_append_inj
    (h : (renderNamespace (some m)).toList ++ x = (renderNamespace (some n)).toList ++ y) :
    m = n ∧ x = y := by
  by_cases hma : m = anyNamespace <;> by_cases hna : n = anyNamespace <;>
    simp only [renderNamespace, hma, hna, if_true, if_false, String.toList_append,
      List.append_assoc] at h
  · exact ⟨hma.trans hna.symm, by simpa [anyNamespace] using h⟩
  · exact (not_star_namespace h).elim
  · exact (not_star_namespace h.symm).elim
  · obtain ⟨rfl, he⟩ := name_append_inj (.bar x) (.bar y) h
    exact ⟨rfl, (List.cons.inj he).2⟩

/-- What stands behind a name that looks like a namespace: the bar, or all of the wildcard. -/
theorem name_eq_namespace (hx : EndsAt Marks x)
    (h : (CharClass.name.escape s).toList ++ x = (renderNamespace (some n)).toList ++ y) :
    n = anyNamespace ∧ x = '*' :: '|' :: y ∨ n ≠ anyNamespace ∧ s = n ∧ x = '|' :: y := by
  by_cases hna : n = anyNamespace <;>
    simp only [renderNamespace, hna, if_true, if_false, String.toList_append,
      List.append_assoc] at h
  · exact .inl ⟨hna, (star_eq_name hx h.symm).2⟩
  · exact .inr ⟨hna, name_append_inj hx (.bar y) h⟩

namespace Plain

theorem name_append_inj (hS : Plain S) (hs : Over S s) (ht : Over S t) (hx : EndsName x)
    (hy : EndsName y)
    (h : (CharClass.name.escape s).toList ++ x = (CharClass.name.escape t).toList ++ y) :
    s = t ∧ x = y :=
  hS.ends_name.append_inj rfl hs ht hx hy h

theorem not_star_name (hS : Plain S) (hs : NameOver S s) :
    '*' :: x ≠ (CharClass.name.escape s).toList ++ y := by
  intro h
  obtain ⟨c, z, hc, hb⟩ := hS.name_head hs
  rw [hc] at h
  exact hb ((List.cons.inj h).1 ▸ by decide)

theorem local_append_inj (hS : Plain S) (hk : LocalOver S k) (hl : LocalOver S l)
    (hx : EndsName x) (hy : EndsName y)
    (h : (renderLocal k).toList ++ x = (renderLocal l).toList ++ y) : k = l ∧ x = y := by
  cases k with
  | none =>
    cases l with
    | none => exact ⟨rfl, by simpa [renderLocal] using h⟩
    | some t => exact (hS.not_star_name hl h).elim
  | some s =>
    cases l with
    | none => exact (hS.not_star_name hk h.symm).elim
    | some t =>
      obtain ⟨rfl, hxy⟩ := hS.name_append_inj hk.2 hl.2 hx hy h
      exact ⟨rfl, hxy⟩

/-- Only a bar behind it can make a local part look like a namespace. -/
theorem local_eq_namespace (hS : Plain S) (hk : LocalOver S k) (hn : Over S n)
    (hx : EndsName x)
    (h : (renderLocal k).toList ++ x = (renderNamespace (some n)).toList ++ y) :
    x = '|' :: y := by
  by_cases hna : n = anyNamespace <;>
    simp only [renderNamespace, hna, if_true, if_false, String.toList_append,
      List.append_assoc] at h
  · cases k with
    | none => exact (List.cons.inj h).2
    | some s => exact (hS.not_star_name hk h.symm).elim
  · cases k with
    | none => exact (not_star_namespace h).elim
    | some s => exact (hS.name_append_inj hk.2 hn hx (.bar y) h).2

theorem not_unbarred (hS : Plain S) (hl : LocalOver S l) (hy : EndsName y) :
    ¬ Unbarred ('|' :: ((renderLocal l).toList ++ y)) := by
  intro h
  obtain ⟨z, hz⟩ := h _ rfl
  cases l with
  | none => cases hz
  | some s =>
    have he : (CharClass.name.escape "").toList ++ '=' :: '"' :: z =
        (CharClass.name.escape s).toList ++ y := hz.symm
    have hover : Over S "" := by simp [Over]
    exact hl.1 (hS.name_append_inj hover hl.2 (.assign z) hy he).1.symm

theorem qualified_append_inj (hS : Plain S) (hm : NamespaceOver S m) (hn : NamespaceOver S n)
    (hk : LocalOver S k) (hl : LocalOver S l) (hx : EndsName x) (hy : EndsName y)
    (hbx : Unbarred x) (hby : Unbarred y)
    (h : (renderNamespace m).toList ++ ((renderLocal k).toList ++ x) =
      (renderNamespace n).toList ++ ((renderLocal l).toList ++ y)) :
    m = n ∧ k = l ∧ x = y := by
  cases m with
  | none =>
    cases n with
    | none => exact ⟨rfl, hS.local_append_inj hk hl hx hy h⟩
    | some n =>
      have he := hS.local_eq_namespace hk hn hx h
      exact (hS.not_unbarred hl hy (he ▸ hbx)).elim
  | some m =>
    cases n with
    | none =>
      have he := hS.local_eq_namespace hl hm hy h.symm
      exact (hS.not_unbarred hk hx (he ▸ hby)).elim
    | some n =>
      obtain ⟨rfl, he⟩ := namespace_append_inj h
      obtain ⟨hkl, hxy⟩ := hS.local_append_inj hk hl hx hy he
      exact ⟨rfl, hkl, hxy⟩

end Plain

end Selectors
