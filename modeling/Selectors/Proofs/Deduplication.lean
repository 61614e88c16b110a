import Selectors.Proofs.History

namespace Selectors

set_option autoImplicit true

namespace Warning

/-- The component of `w` runs on behind the bracket that closes the component of `v`. -/
def RunsInto (v w : Warning) : Prop :=
  ∃ z, w.component = v.component ++ "] " ++ z ∧ v.message = z ++ "] " ++ w.message

theorem RunsInto.key_eq {v w : Warning} (h : v.RunsInto w) : v.key = w.key := by
  obtain ⟨z, hcomponent, hmessage⟩ := h
  simp only [key, hcomponent, hmessage, String.append_assoc]

/-- Where two keys with a bracket at different places agree, the longer component holds a whole
closing bracket and its blank. -/
theorem close_append_eq {d m n : List Char} (h : ']' :: ' ' :: m = d ++ ']' :: ' ' :: n) :
    (d = [] ∧ m = n) ∨ ∃ z, d = ']' :: ' ' :: z ∧ m = z ++ ']' :: ' ' :: n := by
  rcases d with _ | ⟨b, _ | ⟨c, z⟩⟩
  · exact .inl ⟨rfl, by simpa using h⟩
  · simp at h
  · simp only [List.cons_append, List.cons.injEq] at h
    obtain ⟨rfl, rfl, h⟩ := h
    exact .inr ⟨z, rfl, h⟩

theorem eq_or_runsInto {v w : Warning} (h : w.component.toList = v.component.toList ++ d)
    (hd : ']' :: ' ' :: v.message.toList = d ++ ']' :: ' ' :: w.message.toList) :
    v = w ∨ v.RunsInto w := by
  rcases close_append_eq hd with ⟨rfl, hm⟩ | ⟨z, rfl, hm⟩
  · rw [List.append_nil] at h
    cases v
    cases w
    cases String.toList_inj.mp h
    cases String.toList_inj.mp hm
    exact .inl rfl
  · refine .inr ⟨String.ofList z, ?_, ?_⟩
    · apply String.toList_inj.mp
      simpa using h
    · apply String.toList_inj.mp
      simpa using hm

theorem key_eq_iff {v w : Warning} : v.key = w.key ↔ v = w ∨ v.RunsInto w ∨ w.RunsInto v := by
  constructor
  · intro h
    have hkeys : v.component.toList ++ ']' :: ' ' :: v.message.toList =
        w.component.toList ++ ']' :: ' ' :: w.message.toList := by
      simpa [key] using congrArg String.toList h
    rcases List.append_eq_append_iff.mp hkeys with ⟨d, hd, hm⟩ | ⟨d, hd, hm⟩
    · rcases eq_or_runsInto hd hm with rfl | h
      · exact .inl rfl
      · exact .inr (.inl h)
    · rcases eq_or_runsInto hd hm with rfl | h
      · exact .inl rfl
      · exact .inr (.inr h)
  · intro h
    rcases h with rfl | h | h
    · rfl
    · exact h.key_eq
    · exact h.key_eq.symm

end Warning

namespace Reporter

theorem isNew_run (calls : List Call) (w : Warning) :
    (calls.foldl next {}).isNew w = true ↔
      ∀ v, Reported calls v → v ≠ w ∧ ¬ v.RunsInto w ∧ ¬ w.RunsInto v := by
  rw [isNew, decide_eq_true_eq, mem_recorded_run, not_exists]
  refine forall_congr' fun v => ?_
  rw [not_and, Warning.key_eq_iff, not_or, not_or]

theorem output_report (r : Reporter) (w : Warning) :
    (r.flush.report w).output = if r.isNew w then w.line else "" := by
  have hnew : r.flush.isNew w = r.isNew w := rfl
  rw [report, hnew]
  split
  · simp [output, flush]
  · rfl

/-- A warning is printed unless one of those reported before is the same, or shares its key with a
bracket inside of the longer component and of the longer message. -/
theorem warn_answer (before after : List Call) (w : Warning) :
    ∃ answers last, run {} (before ++ .warn w :: after) = .ok (answers, last) ∧
      ∃ isNew : Bool,
        (isNew ↔ ∀ v, Reported before v → v ≠ w ∧ ¬ v.RunsInto w ∧ ¬ w.RunsInto v) ∧
        ∃ answer, answers[before.length]? = some answer ∧ answer.reply = .printed isNew ∧
          answer.output =
            if isNew then "\x1b[33m[Cinder " ++ w.component ++ "] ⚠ " ++ w.message ++ "\x1b[39m\n"
            else "" := by
  refine ⟨_, _, run_eq _ _, _, isNew_run before w, _, answers_getElem _ _ _ _, rfl, ?_⟩
  have hline : w.line =
      "\x1b[33m[Cinder " ++ w.component ++ "] ⚠ " ++ w.message ++ "\x1b[39m\n" := rfl
  rw [← hline]
  exact output_report _ w

/-- The key `[a] b] c` of two different warnings: the second one is never printed. -/
theorem warn_collision : ∃ last,
    run {} [.warn ⟨"a] b", "c"⟩, .warn ⟨"a", "b] c"⟩] =
      .ok ([⟨.printed true, [⟨"a] b", "c"⟩]⟩, ⟨.printed false, []⟩], last) :=
  ⟨_, rfl⟩

end Reporter

end Selectors
