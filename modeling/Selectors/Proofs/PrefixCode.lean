import Mathlib.Data.List.Basic

namespace Selectors

set_option autoImplicit true

/-- The code of an element is told from that of any other one, whatever follows it. -/
def PrefixCode (f : α → List β) : Prop :=
  ∀ (c d : α) (x y : List β), f c ++ x = f d ++ y → c = d ∧ x = y

/-- A reader that takes one code off the front tells them apart. -/
theorem PrefixCode.of_read {f : α → List β} {read : List β → Option (α × List β)}
    (h : ∀ c x, read (f c ++ x) = some (c, x)) : PrefixCode f := by
  intro c d x y he
  have hread := h c x
  rw [he, h d y] at hread
  cases hread
  exact ⟨rfl, rfl⟩

/-- Codes of elements of `P` in a row are told up to where `E` holds, if it holds before none of
them. -/
theorem flatMap_append_inj {f : α → List β} {P : α → Prop} {E : List β → Prop} {m n : List α}
    {x y : List β} (hf : ∀ c ∈ m, ∀ d ∈ n, ∀ x y, f c ++ x = f d ++ y → c = d ∧ x = y)
    (hE : ∀ (c : α) (cs : List α) (y : List β), P c → (∀ d ∈ cs, P d) → E y →
      ¬ E (f c ++ (cs.flatMap f ++ y)))
    (hm : ∀ c ∈ m, P c) (hn : ∀ c ∈ n, P c) (hx : E x) (hy : E y)
    (h : m.flatMap f ++ x = n.flatMap f ++ y) : m = n ∧ x = y := by
  induction m generalizing n with
  | nil =>
    cases n with
    | nil => exact ⟨rfl, h⟩
    | cons d n =>
      simp only [List.flatMap_nil, List.nil_append, List.flatMap_cons, List.append_assoc] at h
      have hnot := hE d n y (hn d (.head n)) (fun e he => hn e (.tail d he)) hy
      exact (hnot (h ▸ hx)).elim
  | cons c m ih =>
    cases n with
    | nil =>
      simp only [List.flatMap_nil, List.nil_append, List.flatMap_cons, List.append_assoc] at h
      have hnot := hE c m x (hm c (.head m)) (fun e he => hm e (.tail c he)) hx
      exact (hnot (h ▸ hy)).elim
    | cons d n =>
      simp only [List.flatMap_cons, List.append_assoc] at h
      obtain ⟨rfl, h'⟩ := hf c (.head m) d (.head n) _ _ h
      obtain ⟨rfl, hxy⟩ := ih (fun e he e' he' => hf e (.tail c he) e' (.tail c he'))
        (fun e he => hm e (.tail c he)) (fun e he => hn e (.tail c he)) h'
      exact ⟨rfl, hxy⟩

/-- Codes in a row are told up to a mark that none of them begins with. -/
theorem flatMap_mark_append_inj {f : α → List β} {m n : List α} {x y : List β}
    (hf : ∀ c ∈ m, ∀ d ∈ n, ∀ x y, f c ++ x = f d ++ y → c = d ∧ x = y)
    (hmark : ∀ c x, (f c ++ x).head? ≠ some mark)
    (h : m.flatMap f ++ mark :: x = n.flatMap f ++ mark :: y) : m = n ∧ x = y := by
  have hE (c : α) (cs : List α) (z : List β) (_ : True) (_ : ∀ d ∈ cs, True)
      (_ : z.head? = some mark) : ¬ (f c ++ (cs.flatMap f ++ z)).head? = some mark :=
    hmark c _
  obtain ⟨hmn, hxy⟩ := flatMap_append_inj hf hE (fun _ _ => trivial) (fun _ _ => trivial) rfl rfl h
  exact ⟨hmn, (List.cons.inj hxy).2⟩

end Selectors
