import Mathlib.Data.List.DropRight
import Mathlib.Data.List.Nodup
import Selectors.Proofs.History

namespace Selectors

set_option autoImplicit true

def Call.isClear : Call → Bool
  | .clear => true
  | _ => false

/-- What was printed since the last `clear`, or since the start of the run if there is none. -/
def printedSinceClear (calls : List Call) (answers : List Answer) : List Warning :=
  ((calls.zip answers).rtakeWhile fun entry => !entry.1.isClear).flatMap (·.2.printed)

theorem printedSinceClear_clear {calls : List Call} {answers : List Answer}
    (hlength : calls.length = answers.length) :
    printedSinceClear (calls ++ [.clear]) (answers ++ [answer]) = [] := by
  rw [printedSinceClear, List.zip_append hlength, List.zip_cons_cons, List.zip_nil_right,
    List.rtakeWhile_concat_neg _ _ _ (by simp [Call.isClear]), List.flatMap_nil]

theorem printedSinceClear_append {calls : List Call} {answers : List Answer}
    (hlength : calls.length = answers.length) (hc : c ≠ .clear) :
    printedSinceClear (calls ++ [c]) (answers ++ [answer]) =
      printedSinceClear calls answers ++ answer.printed := by
  have hclear : c.isClear = false := by
    cases c with
    | clear => exact (hc rfl).elim
    | _ => rfl
  rw [printedSinceClear, List.zip_append hlength, List.zip_cons_cons, List.zip_nil_right,
    List.rtakeWhile_concat_pos _ _ _ (by simp [hclear]), List.flatMap_append,
    List.flatMap_singleton, printedSinceClear]

namespace Reporter

/-- What is printed on the way from `r` to `r'` is what gets recorded, and every key once. -/
structure Records (r r' : Reporter) (new : List Warning) : Prop where
  printed : r'.printed = r.printed ++ new
  recorded : r'.recorded = r.recorded ++ new.map Warning.key
  nodup : r.recorded.Nodup → r'.recorded.Nodup

theorem Records.refl (r : Reporter) : Records r r [] :=
  ⟨(List.append_nil _).symm, (List.append_nil _).symm, id⟩

theorem Records.trans (h : Records r r' ws) (h' : Records r' r'' vs) :
    Records r r'' (ws ++ vs) where
  printed := by rw [h'.printed, h.printed, List.append_assoc]
  recorded := by rw [h'.recorded, h.recorded, List.map_append, List.append_assoc]
  nodup := h'.nodup ∘ h.nodup

theorem records_report (r : Reporter) (w : Warning) : ∃ new, Records r (r.report w) new := by
  unfold report
  split
  · rename_i hnew
    have hw : w.key ∉ r.recorded := by simpa [isNew] using hnew
    have hnodup (h : r.recorded.Nodup) : (r.recorded ++ [w.key]).Nodup := by
      rw [← List.concat_eq_append]
      exact List.Nodup.concat hw h
    exact ⟨[w], rfl, rfl, hnodup⟩
  · exact ⟨[], .refl r⟩

theorem records_reportAll (r : Reporter) (ws : List Warning) :
    ∃ new, Records r (r.reportAll ws) new := by
  induction ws generalizing r with
  | nil => exact ⟨[], .refl r⟩
  | cons w ws ih =>
    obtain ⟨new, h⟩ := records_report r w
    obtain ⟨rest, h'⟩ := ih (r.report w)
    exact ⟨new ++ rest, h.trans h'⟩

/-- One step of a run: any call but `clear` adds the keys of what it prints. -/
theorem records_next {r : Reporter} {c : Call} (hc : c ≠ .clear) :
    Records r.flush (r.next c) (r.next c).printed := by
  have hnext : r.next c = r.flush.reportAll c.reports := by
    cases c with
    | clear => exact (hc rfl).elim
    | _ => rfl
  obtain ⟨new, h⟩ := records_reportAll r.flush c.reports
  have hprinted : (r.flush.reportAll c.reports).printed = new := h.printed
  rw [hnext, hprinted]
  exact h

/-- After any run the recorded keys are those of the warnings printed since the last `clear`, in
the same order, and no key is there twice. -/
theorem recorded_run (calls : List Call) :
    (calls.foldl next {}).recorded =
        (printedSinceClear calls (answers {} calls)).map Warning.key ∧
      (calls.foldl next {}).recorded.Nodup := by
  induction calls using List.reverseRecOn with
  | nil => exact ⟨rfl, List.nodup_nil⟩
  | append_singleton calls c ih =>
    obtain ⟨hkeys, hnodup⟩ := ih
    have hlength : calls.length = (answers {} calls).length := (length_answers {} calls).symm
    rw [List.foldl_append, List.foldl_cons, List.foldl_nil, answers_append, answers, answers]
    by_cases hc : c = .clear
    · subst hc
      rw [printedSinceClear_clear hlength]
      exact ⟨rfl, List.nodup_nil⟩
    · have hstep := records_next (r := calls.foldl next {}) hc
      rw [printedSinceClear_append hlength hc, List.map_append, ← hkeys]
      exact ⟨hstep.recorded, hstep.nodup hnodup⟩

/-- At every point of a run the recorded keys are those reported since the last `clear`, and each
of them has been printed once since then, on a line of its own, and no other. -/
theorem run_records (before after : List Call) :
    ∃ answers r rest last,
      run {} before = .ok (answers, r) ∧ run r after = .ok (rest, last) ∧
      run {} (before ++ after) = .ok (answers ++ rest, last) ∧
      (∀ answer ∈ answers, answer.output = String.join (answer.printed.map fun w =>
        "\x1b[33m[Cinder " ++ w.component ++ "] ⚠ " ++ w.message ++ "\x1b[39m\n")) ∧
      ∀ key,
        (key ∈ r.recorded ↔
          ∃ w, Reported before w ∧ "[" ++ w.component ++ "] " ++ w.message = key) ∧
        ((printedSinceClear before answers).countP fun w =>
            "[" ++ w.component ++ "] " ++ w.message = key) =
          if key ∈ r.recorded then 1 else 0 := by
  refine ⟨_, _, _, _, run_eq _ _, run_eq _ _, ?_, fun _ _ => rfl,
    fun key => ⟨mem_recorded_run before, ?_⟩⟩
  · rw [run_eq, answers_append, List.foldl_append]
  · obtain ⟨hkeys, hnodup⟩ := recorded_run before
    calc
      _ = ((printedSinceClear before (answers {} before)).map Warning.key).count key := by
        rw [List.count, List.countP_map]
        rfl
      _ = (before.foldl next {}).recorded.count key := by rw [hkeys]
      _ = _ := hnodup.count

end Reporter

end Selectors
