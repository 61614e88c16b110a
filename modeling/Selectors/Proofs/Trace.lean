import Selectors.Proofs.History
import Selectors.Proofs.Message

namespace Selectors

set_option autoImplicit true

namespace Reporter

/-- The positions whose warning gets printed: those not recorded yet, each where it first
occurs. -/
def unreported (r : Reporter) (gaps : List Nat) : List Nat :=
  (gaps.filter fun index => gapKey index ∉ r.recorded).eraseDups

/-- What a call does to the reporter if it meets the empty sequences at `gaps`. -/
structure Traces (gaps : List Nat) (r r' : Reporter) : Prop where
  printed : r'.printed = r.printed ++ gapReports (r.unreported gaps)
  output : r'.output = r.output ++ String.join ((r.unreported gaps).map fun index =>
    "\x1b[33m[Cinder Selector] ⚠ empty selector sequence at index " ++ toString index ++
      " of selector list\x1b[39m\n")
  recorded : ∀ key, key ∈ r'.recorded ↔ key ∈ r.recorded ∨ ∃ index ∈ gaps, gapKey index = key

/-- One text for every reporter, the trace of the empty sequences at `gaps`, and nothing new from
a second call. -/
def HasTrace (print : Reporter → Except Defect (String × Reporter)) (gaps : List Nat) : Prop :=
  ∃ text, ∀ r, ∃ r', print r = .ok (text, r') ∧ Traces gaps r r' ∧ print r' = .ok (text, r')

theorem unreported_cons_of_recorded {r : Reporter} (h : gapKey index ∈ r.recorded) :
    r.unreported (index :: gaps) = r.unreported gaps := by
  rw [unreported, List.filter_cons_of_neg (by simpa using h), unreported]

theorem unreported_cons_of_not_recorded {r : Reporter} (h : gapKey index ∉ r.recorded) :
    r.unreported (index :: gaps) =
      index :: (r.report (.emptySequence index)).unreported gaps := by
  have hfilter (other : Nat) :
      ((!other == index) && decide (gapKey other ∉ r.recorded)) =
        decide (gapKey other ∉ (r.report (.emptySequence index)).recorded) := by
    -- only the position itself has its key
    have hkey : gapKey index = gapKey other ↔ other = index :=
      ⟨fun he => (gapKey_inj he).symm, fun he => by rw [he]⟩
    simp only [mem_recorded_report, Warning.emptySequence_key, hkey]
    by_cases he : other = index <;> simp [he]
  rw [unreported, List.filter_cons_of_pos (by simpa using h), List.eraseDups_cons,
    List.filter_filter, unreported]
  simp only [hfilter]

/-- By induction on the positions: a report of the first one records its key for the others. -/
theorem printed_reportAll (r : Reporter) (gaps : List Nat) :
    (r.reportAll (gaps.map .emptySequence)).printed =
      r.printed ++ (r.unreported gaps).map .emptySequence := by
  induction gaps generalizing r with
  | nil => simp [unreported]
  | cons index gaps ih =>
    rw [List.map_cons, reportAll, List.foldl_cons, ← reportAll, ih]
    have hkey := Warning.emptySequence_key index
    by_cases h : gapKey index ∈ r.recorded
    · have hsame : r.report (.emptySequence index) = r := by simp [report, isNew, hkey, h]
      rw [hsame, unreported_cons_of_recorded h]
    · have hprinted : (r.report (.emptySequence index)).printed =
          r.printed ++ [.emptySequence index] := by simp [report, isNew, hkey, h]
      rw [hprinted, unreported_cons_of_not_recorded h, List.map_cons, List.append_assoc,
        List.singleton_append]

theorem reportAll_eq_self {r : Reporter} (h : ∀ w ∈ ws, w.key ∈ r.recorded) :
    r.reportAll ws = r := by
  induction ws with
  | nil => rfl
  | cons w ws ih =>
    have hsame : r.report w = r := by simp [report, isNew, h w (.head ws)]
    rw [reportAll, List.foldl_cons, hsame]
    exact ih fun v hv => h v (.tail w hv)

theorem reportAll_traces (r : Reporter) (gaps : List Nat) :
    Traces gaps r (r.reportAll (gaps.map .emptySequence)) where
  printed := printed_reportAll r gaps
  output := by
    rw [output, printed_reportAll, List.map_append, String.join_append, List.map_map, output]
    simp only [Function.comp_def, Warning.emptySequence_line]
  recorded := by
    intro key
    simp [mem_recorded_reportAll, Warning.emptySequence_key]

theorem HasTrace.of_reportAll {print : Reporter → Except Defect (String × Reporter)}
    (h : ∀ r, print r = .ok (text, r.reportAll (gaps.map .emptySequence))) :
    HasTrace print gaps := by
  refine ⟨text, fun r => ⟨_, h r, reportAll_traces r gaps, ?_⟩⟩
  rw [h, reportAll_eq_self]
  intro w hw
  exact mem_recorded_reportAll.mpr (.inr ⟨w, hw, rfl⟩)

/-- The warnings of one call are those of the empty sequences it meets, in the order of the text,
without the repeated and the recorded ones; and the text depends on none of them. -/
theorem printing_hasTrace :
    (∀ list : SelectorList, HasTrace (·.printList list) (listGaps list 0)) ∧
      (∀ s : Sequence, HasTrace (·.printSequence s) (sequenceGaps s)) ∧
      ∀ t : Token, HasTrace (·.printToken t) t.gaps :=
  ⟨fun list => .of_reportAll fun r => r.printList_eq list,
    fun s => .of_reportAll fun r => r.printSequence_eq s,
    fun t => .of_reportAll fun r => r.printToken_eq t⟩

/-- The outer list has gaps at 0 and 2, the one inside at 0 and 1. -/
example : ({} : Reporter).unreported
    (listGaps [[], [.pseudo "not" (.selectors [[], []])], []] 0) = [0, 1, 2] := by
  decide

end Reporter

end Selectors
