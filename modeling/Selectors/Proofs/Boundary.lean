import Selectors.Proofs.Conforming
import Selectors.Proofs.Escaping
import Selectors.Proofs.PrefixCode

namespace Selectors

set_option autoImplicit true

namespace CharClass

theorem prefixCode_escapeChar {C : CharClass} (hC : C.contains '\\') :
    PrefixCode C.escapeChar := by
  intro c d x y h
  by_cases hc : C.contains c <;> by_cases hd : C.contains d <;>
    simp only [escapeChar, hc, hd, if_true, if_false, List.cons_append, List.nil_append,
      List.cons.injEq, true_and, Bool.false_eq_true] at h
  · exact h
  · exact (hd (h.1 ▸ hC)).elim
  · exact (hc (h.1 ▸ hC)).elim
  · exact h

/-- No escaped text over `S` begins like one of `E` and goes on with one of `E`. -/
def Ends (C : CharClass) (S : Set Char) (E : List Char → Prop) : Prop :=
  ∀ (c : Char) (cs y : List Char), c ∈ S → (∀ d ∈ cs, d ∈ S) → E y →
    ¬ E (C.escapeChar c ++ (cs.flatMap C.escapeChar ++ y))

/-- An escaped text determines itself and where it ends. -/
theorem Ends.append_inj {C : CharClass} (hE : C.Ends S E) (hC : C.contains '\\')
    (hs : Over S s) (ht : Over S t) (hx : E x) (hy : E y)
    (h : (C.escape s).toList ++ x = (C.escape t).toList ++ y) : s = t ∧ x = y := by
  rw [← String.toList_inj]
  rw [toList_escape, toList_escape] at h
  exact flatMap_append_inj (fun c _ d _ => prefixCode_escapeChar hC c d) hE hs ht hx hy h

/-- A text between delimiters ends at the first one that stands without a backslash. -/
theorem delimited_append_inj {C : CharClass} (hC : C.contains '\\') (hc : C.contains c)
    (hb : c ≠ '\\') (h : (C.escape s).toList ++ c :: x = (C.escape t).toList ++ c :: y) :
    s = t ∧ x = y := by
  have hmark (d : Char) (z : List Char) : (C.escapeChar d ++ z).head? ≠ some c := by
    intro he
    by_cases hd : C.contains d
    · rw [escapeChar, if_pos hd] at he
      exact hb (Option.some.inj he).symm
    · rw [escapeChar, if_neg hd] at he
      exact hd (Option.some.inj he ▸ hc)
  rw [← String.toList_inj]
  rw [toList_escape, toList_escape] at h
  exact flatMap_mark_append_inj (fun d _ e _ => prefixCode_escapeChar hC d e) hmark h

end CharClass

/-- The characters of the written form that a name has without a backslash. -/
def structural : List Char :=
  [',', '>', '<', '#']

/-- No name over `S` has a character that could be taken for a part of the written form. -/
def Plain (S : Set Char) : Prop :=
  ∀ c ∈ structural, c ∉ S

/-- Without a backslash before it, it stands outside of names if these are plain. -/
def Breaks (c : Char) : Prop :=
  c ≠ '\\' ∧ (CharClass.name.contains c ∨ c ∈ structural)

instance : DecidablePred Breaks :=
  fun c => inferInstanceAs (Decidable (c ≠ '\\' ∧ (CharClass.name.contains c ∨ c ∈ structural)))

/-- An escaped character begins with a backslash or is written as it is. -/
theorem escapeChar_head {B : Char → Prop} (hback : ¬ B '\\')
    (hfree : CharClass.name.contains c = false → ¬ B c) :
    ∃ d z, CharClass.name.escapeChar c = d :: z ∧ ¬ B d ∧ (d = '\\' ∨ z = []) := by
  by_cases h : CharClass.name.contains c
  · exact ⟨'\\', [c], by simp [CharClass.escapeChar, h], hback, .inl rfl⟩
  · exact ⟨c, [], by simp [CharClass.escapeChar, h], hfree (by simpa using h), .inr rfl⟩

theorem Plain.not_breaks (hS : Plain S) (hc : c ∈ S) (h : CharClass.name.contains c = false) :
    ¬ Breaks c := by
  rintro ⟨_, hm | hm⟩
  · rw [h] at hm
    cases hm
  · exact hS c hm hc

theorem Plain.name_head (hS : Plain S) (h : NameOver S s) :
    ∃ c z, (CharClass.name.escape s).toList = c :: z ∧ ¬ Breaks c := by
  rw [CharClass.toList_escape]
  cases hs : s.toList with
  | nil => exact (h.1 (String.toList_injective hs)).elim
  | cons c cs =>
    obtain ⟨d, z, he, hd, _⟩ :=
      escapeChar_head (B := Breaks) (by decide) (hS.not_breaks (h.2 c (by simp [hs])))
    exact ⟨d, z ++ cs.flatMap CharClass.name.escapeChar, by simp [he], hd⟩

/-- What may stand behind a name. An equals sign may be part of the name, but not with an open
quote behind it. -/
def EndsName : List Char → Prop
  | [] => True
  | c :: x => Breaks c ∧ c ≠ '"' ∨ c = '=' ∧ x.head? = some '"'

/-- What may stand behind a name if the characters of `B` stand outside of names. -/
def EndsAt (B : Char → Prop) : List Char → Prop
  | [] => True
  | c :: x => B c ∧ c ≠ '"' ∨ c = '=' ∧ x.head? = some '"'

theorem endsName_iff {x : List Char} : EndsName x ↔ EndsAt Breaks x := by
  cases x <;> exact Iff.rfl

theorem EndsAt.mono {B B' : Char → Prop} (h : EndsAt B x) (hB : ∀ c, B c → B' c) :
    EndsAt B' x := by
  cases x with
  | nil => trivial
  | cons c x => exact h.imp_left fun hc => ⟨hB c hc.1, hc.2⟩

/-- The quote stands outside of names over `S`, and of their characters only those that take a
backslash do. -/
theorem ends_at {B : Char → Prop} (hquote : B '"') (hback : ¬ B '\\')
    (hfree : ∀ c ∈ S, CharClass.name.contains c = false → ¬ B c) :
    CharClass.name.Ends S (EndsAt B) := by
  intro c cs y hc hcs hy h
  obtain ⟨d, z, he, hd, hz⟩ := escapeChar_head hback (hfree c hc)
  rw [he] at h
  rcases h with ⟨hb, _⟩ | ⟨rfl, hq⟩
  · exact hd hb
  -- An equals sign is a part of a name unless a quote without a backslash stands behind it.
  · obtain rfl : z = [] := hz.resolve_left (by decide)
    cases cs with
    | nil =>
      cases y with
      | nil => cases hq
      | cons e y =>
        obtain rfl : e = '"' := Option.some.inj hq
        rcases hy with ⟨_, hn⟩ | ⟨hn, _⟩
        · exact hn rfl
        · cases hn
    | cons e cs =>
      obtain ⟨f, w, he', hf, _⟩ := escapeChar_head hback (hfree e (hcs e (.head cs)))
      simp only [List.flatMap_cons, he'] at hq
      obtain rfl : f = '"' := Option.some.inj hq
      exact hf hquote

theorem Plain.ends_name (hS : Plain S) : CharClass.name.Ends S EndsName := by
  have he : EndsName = EndsAt Breaks := funext fun _ => propext endsName_iff
  rw [he]
  exact ends_at (by decide) (by decide) fun _ hc => hS.not_breaks hc

/-- Without a backslash before it, it stands outside of any name at all. -/
def Marks (c : Char) : Prop :=
  c ≠ '\\' ∧ CharClass.name.contains c

instance : DecidablePred Marks :=
  fun c => inferInstanceAs (Decidable (c ≠ '\\' ∧ CharClass.name.contains c))

theorem Marks.breaks {c : Char} (h : Marks c) : Breaks c :=
  ⟨h.1, .inl h.2⟩

theorem not_marks (h : CharClass.name.contains c = false) : ¬ Marks c := by
  rintro ⟨_, hm⟩
  rw [h] at hm
  cases hm

/-- A name of any characters determines itself and where it ends. -/
theorem name_append_inj (hx : EndsAt Marks x) (hy : EndsAt Marks y)
    (h : (CharClass.name.escape s).toList ++ x = (CharClass.name.escape t).toList ++ y) :
    s = t ∧ x = y :=
  (ends_at (S := .univ) (by decide) (by decide) fun _ _ => not_marks).append_inj rfl
    (fun _ _ => trivial) (fun _ _ => trivial) hx hy h

end Selectors
