import Mathlib.Data.List.Induction
import Selectors.Proofs.Printing
import Selectors.Session

namespace Selectors

set_option autoImplicit true

/-- A reply and the warnings printed with it. -/
structure Answer where
  reply : Reply
  printed : List Warning
  deriving DecidableEq

/-- What stands on the error stream after the call. -/
def Answer.output (a : Answer) : String :=
  Reporter.output { printed := a.printed }

/-- The answers to the calls in their order, and the reporter they leave. -/
def Reporter.run (r : Reporter) : List Call → Except Defect (List Answer × Reporter)
  | [] => .ok ([], r)
  | c :: calls => do
    let (reply, next) ← r.call c
    let (answers, last) ← next.run calls
    return ({ reply, printed := next.printed } :: answers, last)

/-- One warning for each of the empty sequences at `gaps`. -/
def gapReports (gaps : List Nat) : List Warning :=
  gaps.map fun index =>
    { component := "Selector"
      message := "empty selector sequence at index " ++ toString index ++ " of selector list" }

/-- What a call reports, whether it is new or not. -/
def Call.reports : Call → List Warning
  | .warn w => [w]
  | .clear => []
  | .printToken t => gapReports t.gaps
  | .printSequence s => gapReports (sequenceGaps s)
  | .printList list => gapReports (listGaps list 0)

/-- Some call after the last `clear` reports `w`. -/
def Reported (calls : List Call) (w : Warning) : Prop :=
  ∃ before c after, calls = before ++ c :: after ∧ w ∈ c.reports ∧ .clear ∉ after

theorem gapReports_eq (gaps : List Nat) : gaps.map .emptySequence = gapReports gaps := rfl

namespace Reporter

def replyTo (r : Reporter) : Call → Reply
  | .warn w => .printed (r.isNew w)
  | .clear => .cleared
  | .printToken t => .text t.render
  | .printSequence s => .text (renderSequence s)
  | .printList list => .text (renderList list)

def next (r : Reporter) : Call → Reporter
  | .clear => r.flush.clear
  | c => r.flush.reportAll c.reports

def answers (r : Reporter) : List Call → List Answer
  | [] => []
  | c :: calls =>
    { reply := r.replyTo c, printed := (r.next c).printed } :: (r.next c).answers calls

theorem call_eq (r : Reporter) (c : Call) : r.call c = .ok (r.replyTo c, r.next c) := by
  cases c with
  | warn w => rfl
  | clear => rfl
  | printToken t => simp [call, reply, printToken_eq, replyTo, next, Call.reports, gapReports_eq]
  | printSequence s =>
    simp [call, reply, printSequence_eq, replyTo, next, Call.reports, gapReports_eq]
  | printList list => simp [call, reply, printList_eq, replyTo, next, Call.reports, gapReports_eq]

theorem run_eq (r : Reporter) (calls : List Call) :
    r.run calls = .ok (r.answers calls, calls.foldl next r) := by
  induction calls generalizing r with
  | nil => rfl
  | cons c calls ih => simp [run, call_eq, ih, answers]

theorem length_answers (r : Reporter) (calls : List Call) :
    (r.answers calls).length = calls.length := by
  induction calls generalizing r with
  | nil => rfl
  | cons c calls ih => simp [answers, ih]

theorem answers_append (r : Reporter) (before after : List Call) :
    r.answers (before ++ after) = r.answers before ++ (before.foldl next r).answers after := by
  induction before generalizing r with
  | nil => rfl
  | cons c before ih => simp [answers, ih]

theorem answers_getElem (r : Reporter) (before : List Call) (c : Call) (after : List Call) :
    (r.answers (before ++ c :: after))[before.length]? =
      some { reply := (before.foldl next r).replyTo c
             printed := ((before.foldl next r).next c).printed } := by
  rw [answers_append, ← length_answers r before, List.getElem?_append_right (Nat.le_refl _),
    Nat.sub_self]
  rfl

theorem mem_recorded_report {r : Reporter} {w : Warning} :
    key ∈ (r.report w).recorded ↔ key ∈ r.recorded ∨ w.key = key := by
  unfold report
  split
  · simp [eq_comm]
  · rename_i hnew
    have hw : w.key ∈ r.recorded := by simpa [isNew] using hnew
    constructor
    · exact .inl
    · intro h
      rcases h with h | rfl
      · exact h
      · exact hw

theorem mem_recorded_reportAll {r : Reporter} {ws : List Warning} :
    key ∈ (r.reportAll ws).recorded ↔ key ∈ r.recorded ∨ ∃ w ∈ ws, w.key = key := by
  induction ws generalizing r with
  | nil => simp
  | cons w ws ih =>
    rw [reportAll, List.foldl_cons, ← reportAll, ih, mem_recorded_report]
    simp [or_assoc]

/-- One step of the recorded keys: a `clear` forgets them, any other call adds its own. -/
theorem mem_recorded_next {r : Reporter} {c : Call} : key ∈ (r.next c).recorded ↔
    (c ≠ .clear ∧ key ∈ r.recorded) ∨ ∃ w ∈ c.reports, w.key = key := by
  cases c with
  | clear => simp [next, flush, clear, Call.reports]
  | _ => simp [next, mem_recorded_reportAll, flush]

end Reporter

theorem reported_append_singleton {calls : List Call} :
    Reported (calls ++ [c]) w ↔ (c ≠ .clear ∧ Reported calls w) ∨ w ∈ c.reports := by
  constructor
  · intro h
    obtain ⟨before, d, after, hcalls, hw, hafter⟩ := h
    -- the report is that of `c` itself, or came before it
    rcases List.eq_nil_or_concat after with rfl | ⟨after, e, rfl⟩
    · obtain ⟨-, hd⟩ := List.append_inj' hcalls rfl
      cases hd
      exact .inr hw
    · rw [List.concat_eq_append, List.mem_append, List.mem_singleton, not_or] at hafter
      rw [List.concat_eq_append, ← List.cons_append, ← List.append_assoc] at hcalls
      obtain ⟨hsame, he⟩ := List.append_inj' hcalls rfl
      cases he
      exact .inl ⟨Ne.symm hafter.2, before, d, after, hsame, hw, hafter.1⟩
  · intro h
    rcases h with ⟨hc, before, d, after, rfl, hw, hafter⟩ | hw
    · refine ⟨before, d, after ++ [c], by simp, hw, ?_⟩
      rw [List.mem_append, List.mem_singleton, not_or]
      exact ⟨hafter, Ne.symm hc⟩
    · exact ⟨calls, c, [], rfl, hw, List.not_mem_nil⟩

/-- After any run the recorded keys are those reported since the last `clear`. -/
theorem Reporter.mem_recorded_run (calls : List Call) :
    key ∈ (calls.foldl next {}).recorded ↔ ∃ w, Reported calls w ∧ w.key = key := by
  induction calls using List.reverseRecOn with
  | nil => simp [Reported]
  | append_singleton calls c ih =>
    rw [List.foldl_append, List.foldl_cons, List.foldl_nil, mem_recorded_next, ih]
    simp only [reported_append_singleton]
    constructor
    · intro h
      rcases h with ⟨hc, w, hw, hkey⟩ | ⟨w, hw, hkey⟩
      · exact ⟨w, .inl ⟨hc, hw⟩, hkey⟩
      · exact ⟨w, .inr hw, hkey⟩
    · intro h
      obtain ⟨w, ⟨hc, hw⟩ | hw, hkey⟩ := h
      · exact .inl ⟨hc, w, hw, hkey⟩
      · exact .inr ⟨w, hw, hkey⟩

end Selectors
