import Mathlib.Data.List.Induction
import Selectors.Proofs.Escaping

namespace Selectors.CharClass

set_option autoImplicit true

/-- What stands for `text`: a new text, or the text itself where nothing was escaped. -/
def escapedText (C : CharClass) (text : String) : Except BadRange String :=
  (C.escapeRuns text).map (·.getD text)

theorem escapedText_eq (C : CharClass) (s : String) : C.escapedText s = .ok (C.escape s) := by
  rw [escapedText, escapeRuns_eq]
  by_cases h : C.Clean s
  · simp only [h, if_true, Except.map, Option.getD_none, h.escape_eq]
  · simp only [h, if_false, Except.map, Option.getD_some]

/-- Reading takes back what escaping made of the first character, and goes on behind it. -/
theorem unescapeChars_append {C : CharClass} (hC : C.contains '\\') (c : Char) (x : List Char) :
    C.unescapeChars (C.escapeChar c ++ x) = (C.unescapeChars x).map (c :: ·) := by
  by_cases hc : C.contains c
  · simp only [escapeChar, hc, if_true, List.cons_append, List.nil_append, unescapeChars]
  · have hback : c ≠ '\\' := by
      rintro rfl
      exact hc hC
    simp only [escapeChar, hc, Bool.false_eq_true, if_false, List.cons_append, List.nil_append]
    rw [unescapeChars]
    · rw [if_neg hc]
    · exact fun hb _ => hback hb
    · exact fun _ _ hb _ => hback hb

theorem unescapeChars_escaped {C : CharClass} (hC : C.contains '\\') (cs : List Char) :
    C.unescapeChars (cs.flatMap C.escapeChar) = some cs := by
  induction cs with
  | nil => rfl
  | cons c cs ih =>
    rw [List.flatMap_cons, unescapeChars_append hC, ih]
    rfl

/-- Reading accepts nothing but what escaping makes, whatever the class. -/
theorem escaped_of_unescapeChars {C : CharClass} (h : C.unescapeChars x = some cs) :
    cs.flatMap C.escapeChar = x := by
  fun_induction unescapeChars C x generalizing cs with
  | case1 =>
    cases h
    rfl
  | case2 => cases h
  | case3 c x hc ih =>
    obtain ⟨ds, hds, rfl⟩ := Option.map_eq_some_iff.mp h
    rw [List.flatMap_cons, escapeChar, if_pos hc, ih hds]
    rfl
  | case4 => cases h
  | case5 => cases h
  | case6 c x _ _ hc ih =>
    obtain ⟨ds, hds, rfl⟩ := Option.map_eq_some_iff.mp h
    rw [List.flatMap_cons, escapeChar, if_neg hc, ih hds]
    rfl

theorem unescape?_eq_some {C : CharClass} (hC : C.contains '\\') (s e : String) :
    C.unescape? e = some s ↔ C.escape s = e := by
  rw [unescape?, Option.map_eq_some_iff]
  constructor
  · rintro ⟨cs, hcs, rfl⟩
    rw [escape, String.toList_ofList, escaped_of_unescapeChars hcs, String.ofList_toList]
  · rintro rfl
    exact ⟨s.toList, by rw [toList_escape, unescapeChars_escaped hC], String.ofList_toList⟩

/-- With the backslash in the class, escaping and strict reading undo each other: every text is
read back, and the texts that are accepted are the escaped ones. -/
theorem escapedText_iff_unescape {C : CharClass} (hC : C.contains '\\') :
    (∀ s e : String, C.escapedText s = .ok e ↔ C.unescape? e = some s) ∧
      (∀ s : String, ∃ e, C.escapedText s = .ok e ∧ C.unescape? e = some s) ∧
      ∀ e : String, (∃ s, C.escapedText s = .ok e) ↔ (C.unescape? e).isSome := by
  have hiff (s e : String) : C.escapedText s = .ok e ↔ C.unescape? e = some s := by
    rw [escapedText_eq, unescape?_eq_some hC, Except.ok.injEq]
  refine ⟨hiff, fun s => ?_, fun e => ?_⟩
  · exact ⟨C.escape s, C.escapedText_eq s, (hiff s _).mp (C.escapedText_eq s)⟩
  · rw [Option.isSome_iff_exists]
    exact exists_congr fun s => hiff s e

theorem escapedText_iff_unescape_classes :
    (attributeValue.contains '\\' ∧ attributeValue.escapedText "\\\"(" = .ok "\\\\\\\"(") ∧
      (pseudoValue.contains '\\' ∧ pseudoValue.escapedText "\\(." = .ok "\\\\\\(.") ∧
      name.contains '\\' ∧ name.escapedText "\\\\.," = .ok "\\\\\\\\\\.," :=
  ⟨⟨rfl, ((escapedText_iff_unescape rfl).1 _ _).mpr rfl⟩,
    ⟨rfl, ((escapedText_iff_unescape rfl).1 _ _).mpr rfl⟩,
    rfl, ((escapedText_iff_unescape rfl).1 _ _).mpr rfl⟩

/-- What was escaped last ends with the character itself, so that it can be told from the end:
whether a backslash stands before it is then up to the class alone. -/
theorem append_escapeChar_inj {C : CharClass} (h : x ++ C.escapeChar c = y ++ C.escapeChar d) :
    x = y ∧ c = d := by
  have hlast (z : List Char) (e : Char) : (z ++ C.escapeChar e).getLast? = some e := by
    unfold escapeChar
    split <;> simp
  have hcd : c = d := by
    have he := congrArg List.getLast? h
    rwa [hlast, hlast, Option.some.injEq] at he
  subst d
  exact ⟨List.append_cancel_right h, rfl⟩

theorem escaped_inj {C : CharClass} (cs ds : List Char)
    (h : cs.flatMap C.escapeChar = ds.flatMap C.escapeChar) : cs = ds := by
  -- From the front a backslash of the text cannot be told from one that was put in.
  induction cs using List.reverseRecOn generalizing ds with
  | nil =>
    cases ds with
    | nil => rfl
    | cons d ds => simp [escapeChar_ne_nil] at h
  | append_singleton cs c ih =>
    rcases List.eq_nil_or_concat ds with rfl | ⟨ds, d, rfl⟩
    · simp [escapeChar_ne_nil] at h
    · simp only [List.concat_eq_append, List.flatMap_append, List.flatMap_singleton] at h ⊢
      obtain ⟨hinit, rfl⟩ := append_escapeChar_inj h
      rw [ih ds hinit]

theorem escape_inj {C : CharClass} {s t : String} : C.escape s = C.escape t ↔ s = t := by
  refine ⟨fun h => ?_, congrArg C.escape⟩
  apply String.toList_injective
  apply escaped_inj
  rw [← toList_escape, ← toList_escape, h]

/-- Different texts stay different, also if the class lacks the backslash. -/
theorem escapedText_inj (C : CharClass) (s t : String) :
    ∃ x y, C.escapedText s = .ok x ∧ C.escapedText t = .ok y ∧ (x = y ↔ s = t) :=
  ⟨C.escape s, C.escape t, C.escapedText_eq s, C.escapedText_eq t, escape_inj⟩

end Selectors.CharClass
