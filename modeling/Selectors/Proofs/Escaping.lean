import Mathlib.Data.String.Basic
import Selectors.Text.Escape

namespace Selectors

set_option autoImplicit true

/-- Two ends of whole texts cut out what stands between them. -/
theorem slice_append (s t u : String) :
    slice (s ++ t ++ u) s.rawEndPos (s ++ t).rawEndPos = .ok t := by
  have hvalid (a b : String) : a.rawEndPos.isValid (a ++ b) := by
    rw [String.Pos.Raw.isValid_eq_true_iff, String.Pos.Raw.isValid_iff_exists_append]
    exact ⟨a, b, rfl, rfl⟩
  have hstart : s.rawEndPos.isValid (s ++ t ++ u) := by
    rw [String.append_assoc]
    exact hvalid s (t ++ u)
  have hle : s.rawEndPos ≤ (s ++ t).rawEndPos := by
    simp [String.Pos.Raw.le_iff]
  have hcut := String.extract_of_valid s.toList t.toList u.toList
  simp only [String.ofList_append, String.ofList_toList, String.utf8Len_toList] at hcut
  rw [slice, if_pos ⟨hle, hstart, hvalid (s ++ t) u⟩]
  have hend : (s ++ t).rawEndPos = ⟨s.utf8ByteSize + t.utf8ByteSize⟩ := by
    ext
    simp
  rw [hend]
  exact congrArg _ hcut

namespace CharClass

@[simp] theorem toList_escape (C : CharClass) (s : String) :
    (C.escape s).toList = s.toList.flatMap C.escapeChar :=
  String.toList_ofList

@[simp] theorem escape_append (C : CharClass) (s t : String) :
    C.escape (s ++ t) = C.escape s ++ C.escape t := by
  simp only [escape, String.toList_append, List.flatMap_append, String.ofList_append]

theorem escape_push (C : CharClass) (s : String) (c : Char) :
    C.escape (s.push c) = C.escape s ++ String.ofList (C.escapeChar c) := by
  apply String.toList_injective
  simp

theorem escapeChar_ne_nil (C : CharClass) (c : Char) : C.escapeChar c ≠ [] := by
  unfold escapeChar
  split <;> simp

theorem escape_ne_empty {C : CharClass} {s : String} (h : s ≠ "") : C.escape s ≠ "" := by
  intro he
  have hl : s.toList.flatMap C.escapeChar = [] := by
    rw [← toList_escape, he]
    rfl
  cases hs : s.toList with
  | nil => exact h (String.toList_injective hs)
  | cons c cs => simp [hs, escapeChar_ne_nil] at hl

/-- The text has no member of the class. -/
def Clean (C : CharClass) (s : String) : Prop :=
  ∀ c ∈ s.toList, C.contains c = false

theorem Clean.escape_eq (h : Clean C s) : C.escape s = s := by
  have hl (cs : List Char) (hcs : ∀ c ∈ cs, C.contains c = false) :
      cs.flatMap C.escapeChar = cs := by
    induction cs with
    | nil => rfl
    | cons c cs ih =>
      have hc : C.escapeChar c = [c] := by simp [escapeChar, hcs c]
      rw [List.flatMap_cons, hc, ih fun d hd => hcs d (.tail c hd), List.singleton_append]
  apply String.toList_injective
  rw [toList_escape, hl _ h]

theorem Clean.push (h : Clean C s) (hc : C.contains c = false) : Clean C (s.push c) := by
  intro d hd
  rw [String.toList_push, List.mem_append, List.mem_singleton] at hd
  rcases hd with hd | rfl
  · exact h d hd
  · exact hc

instance (C : CharClass) (s : String) : Decidable (C.Clean s) :=
  inferInstanceAs (Decidable (∀ c ∈ s.toList, _))

/-- The loop with `done` covered by its output and `run`, which is clean, still to be copied. Only
an empty output says that nothing was escaped. -/
theorem escapeFrom_eq (C : CharClass) (done run : String) (rest : List Char)
    (hrun : C.Clean run) :
    C.escapeFrom (done ++ run ++ String.ofList rest) rest (done ++ run).rawEndPos done.rawEndPos
        (C.escape done) =
      .ok (if done = "" ∧ C.Clean (String.ofList rest) then none
        else some (C.escape (done ++ run ++ String.ofList rest))) := by
  induction rest generalizing done run with
  | nil =>
    unfold escapeFrom
    by_cases hdone : done = ""
    · subst done
      simp [escape, Clean]
    · have hout : (C.escape done).isEmpty = false := by
        rw [String.isEmpty_eq_false_iff]
        exact escape_ne_empty hdone
      have htail := slice_append done run ""
      simp only [String.append_empty, String.ofList_nil] at htail ⊢
      rw [hout, htail]
      simp [hdone, hrun.escape_eq, bind, Except.bind, pure, Except.pure]
  | cons c rest ih =>
    have htext : done ++ run ++ String.ofList (c :: rest) =
        (done ++ run).push c ++ String.ofList rest := by
      apply String.toList_injective
      simp
    unfold escapeFrom
    by_cases hc : C.contains c
    · have hout : ((C.escape done ++ run).push '\\').push c = C.escape ((done ++ run).push c) := by
        rw [escape_push, escape_append, hrun.escape_eq]
        apply String.toList_injective
        simp [escapeChar, hc]
      have hnext := ih ((done ++ run).push c) "" (by simp [Clean])
      have hne : (done ++ run).push c ≠ "" := by
        intro h
        simpa using congrArg String.toList h
      rw [if_pos hc, slice_append]
      simp only [String.append_empty, String.rawEndPos_push, ← htext] at hnext
      simp only [bind, Except.bind, hout, hnext]
      simp [hne, Clean, hc]
    · have hnext := ih done (run.push c) (hrun.push (by simpa using hc))
      have hpush : done ++ run.push c = (done ++ run).push c := by
        apply String.toList_injective
        simp
      rw [hpush, String.rawEndPos_push, ← htext] at hnext
      rw [if_neg hc, hnext]
      simp [Clean, hc]

/-- Copying whole runs escapes each character by itself, and never fails. -/
theorem escapeRuns_eq (C : CharClass) (s : String) :
    C.escapeRuns s = .ok (if C.Clean s then none else some (C.escape s)) := by
  have h := escapeFrom_eq C "" "" s.toList (by simp [Clean])
  simpa [escapeRuns, escape] using h

theorem clean_iff {C : CharClass} {s : String} : C.Clean s ↔ ∀ c ∈ s.toList, c ∉ C.members := by
  simp [Clean, contains]

theorem escape_eq_join (C : CharClass) (s : String) :
    C.escape s = String.join (s.toList.map fun c =>
      if c ∈ C.members then "\\" ++ c.toString else c.toString) := by
  apply String.toList_injective
  rw [toList_escape]
  induction s.toList with
  | nil => rfl
  | cons c cs ih =>
    rw [List.flatMap_cons, ih]
    by_cases hc : c ∈ C.members <;> simp [escapeChar, contains, hc]

/-- The loop over runs and slices puts a backslash before each member of the class and changes
nothing else. The text itself comes back exactly if it has no member of the class. -/
theorem escapeRuns_characterwise (C : CharClass) (s : String) :
    ∃ escaped?, C.escapeRuns s = .ok escaped? ∧
      escaped?.getD s = String.join (s.toList.map fun c =>
        if c ∈ C.members then "\\" ++ c.toString else c.toString) ∧
      (escaped? = none ↔ ∀ c ∈ s.toList, c ∉ C.members) := by
  refine ⟨_, C.escapeRuns_eq s, ?_, ?_⟩
  · rw [← escape_eq_join]
    by_cases h : C.Clean s
    · rw [if_pos h, Option.getD_none, h.escape_eq]
    · rw [if_neg h, Option.getD_some]
  · rw [← clean_iff]
    by_cases h : C.Clean s <;> simp [h]

/-- Slices between characters of three bytes. -/
example : pseudoValue.escapeRuns "日本(語)" = .ok (some "日本\\(語\\)") := by
  decide

end CharClass

end Selectors
