import Selectors.Proofs.Decoding
import Selectors.Proofs.Message

namespace Selectors

set_option autoImplicit true

theorem firstOf_nil : ¬ FirstOf [] m :=
  nofun

theorem firstOf_cons : FirstOf (F :: Fs) m ↔ F m ∨ F.Absent ∧ FirstOf Fs m := by
  constructor
  · intro h
    cases h with
    | here h => exact .inl h
    | later hF h => exact .inr ⟨hF, h⟩
  · rintro (h | ⟨hF, h⟩)
    · exact .here h
    · exact .later hF h

theorem firstOf_append :
    FirstOf (Fs ++ Gs) m ↔ FirstOf Fs m ∨ (∀ F ∈ Fs, F.Absent) ∧ FirstOf Gs m := by
  induction Fs with
  | nil => simp [firstOf_nil]
  | cons F Fs ih =>
    rw [List.cons_append, firstOf_cons, ih, firstOf_cons, List.forall_mem_cons]
    tauto

theorem firstOf_singleton : FirstOf [F] m ↔ F m := by
  rw [firstOf_cons]
  exact or_iff_left fun h => firstOf_nil h.2

/-- In an ascending list the first fault is the one of the least element. -/
theorem firstOf_ascending {keys : List String} {F : String → Fault} (h : keys.Pairwise (· < ·)) :
    FirstOf (keys.map F) m ↔
      ∃ key ∈ keys, F key m ∧ ∀ other ∈ keys, other < key → (F other).Absent := by
  induction keys with
  | nil => simp [firstOf_nil]
  | cons a keys ih =>
    obtain ⟨ha, hkeys⟩ := List.pairwise_cons.mp h
    rw [List.map_cons, firstOf_cons, ih hkeys]
    constructor
    · rintro (hF | ⟨hF, key, hkey, hm, hleast⟩)
      · refine ⟨a, .head keys, hF, fun other hother hlt => ?_⟩
        rcases List.mem_cons.mp hother with rfl | hmem
        · exact (lt_irrefl _ hlt).elim
        · exact (lt_asymm hlt (ha other hmem)).elim
      · refine ⟨key, .tail a hkey, hm, fun other hother hlt => ?_⟩
        rcases List.mem_cons.mp hother with rfl | hmem
        · exact hF
        · exact hleast other hmem hlt
    · rintro ⟨key, hkey, hm, hleast⟩
      rcases List.mem_cons.mp hkey with rfl | hmem
      · exact .inl hm
      · exact .inr ⟨hleast a (.head keys) (ha key hmem), key, hmem, hm,
          fun other hother hlt => hleast other (.tail a hother) hlt⟩

/-- The message of a refusal, as a fault of what is read. -/
def Fails (x : Except Refusal α) : Fault :=
  fun m => ∃ e, x = .error e ∧ e.message = m

@[simp] theorem fails_ok {a : α} : ¬ Fails (.ok a) m :=
  nofun

@[simp] theorem fails_error : Fails (.error e : Except Refusal α) m ↔ e.message = m := by
  simp [Fails]

theorem fails_bind {x : Except Refusal α} {f : α → Except Refusal β} :
    Fails (x >>= f) m ↔ Fails x m ∨ ∃ a, x = .ok a ∧ Fails (f a) m := by
  cases x with
  | ok a => simp
  | error e => simp

theorem fails_bind_pure {x : Except Refusal α} {f : α → β} :
    Fails (x >>= fun a => pure (f a)) m ↔ Fails x m := by
  rw [fails_bind]
  exact or_iff_left fun ⟨_, _, h⟩ => fails_ok h

theorem fails_absent {x : Except Refusal α} : (Fails x).Absent ↔ ∃ a, x = .ok a := by
  cases x with
  | ok a => simp [Fault.Absent]
  | error e => simp [Fault.Absent]

/-- One step of a reader that stops at its first fault. -/
theorem fails_bind_firstOf {x : Except Refusal α} {f : α → Except Refusal β}
    (hx : ∀ n, Fails x n ↔ F n) (hf : ∀ a, x = .ok a → (Fails (f a) m ↔ FirstOf Fs m)) :
    Fails (x >>= f) m ↔ FirstOf (F :: Fs) m := by
  have hF : F = Fails x := funext fun n => propext (hx n).symm
  rw [firstOf_cons, hF, fails_absent, fails_bind]
  refine or_congr_right ?_
  constructor
  · rintro ⟨a, ha, h⟩
    exact ⟨⟨a, ha⟩, (hf a ha).mp h⟩
  · rintro ⟨⟨a, ha⟩, h⟩
    exact ⟨a, ha, (hf a ha).mpr h⟩

theorem fails_ok_firstOf {a : α} : Fails (.ok a) m ↔ FirstOf [] m :=
  ⟨nofun, nofun⟩

/-- A reader with one message fails on what denotes nothing. -/
theorem fails_unreadable {read : Json → Except Refusal α} {R : Json → α → Prop}
    (hok : ∀ x, read v = .ok x ↔ R v x) (herror : ∀ e, read v = .error e → e.message = n) :
    Fails (read v) m ↔ Unreadable R v n m := by
  constructor
  · rintro ⟨e, he, rfl⟩
    rw [herror e he]
    refine .none fun x hx => ?_
    rw [(hok x).mpr hx] at he
    cases he
  · rintro ⟨h⟩
    cases hv : read v with
    | ok x => exact (h x ((hok x).mp hv)).elim
    | error e => exact ⟨e, rfl, herror e hv⟩

theorem fails_readString :
    Fails (readString v) m ↔ Unreadable DenotesString v (invalidType v "a string") m := by
  apply fails_unreadable fun _ => readString_eq_ok
  intro e he
  cases v <;> cases he <;> rfl

theorem fails_readOption :
    Fails (readOption v) m ↔ Unreadable DenotesNamespace v (invalidType v "a string") m := by
  apply fails_unreadable fun _ => readOption_eq_ok
  intro e he
  cases v <;> cases he <;> rfl

theorem readCaseMode_error (h : readCaseMode v = .error e) : e = .badCaseMode := by
  unfold readCaseMode at h
  split at h
  · cases h
  · cases h
  · cases h
  · split at h <;> cases h
    rfl
  · split at h <;> cases h
    rfl
  · cases h
    rfl

theorem fails_readCaseMode : Fails (readCaseMode v) m ↔ Unreadable DenotesCaseMode v
    "data did not match any variant of untagged enum IgnoreCaseRepr" m := by
  apply fails_unreadable fun _ => readCaseMode_eq_ok
  intro e he
  rw [readCaseMode_error he]
  rfl

/-- The refusal of a nested list is not passed on. -/
theorem readArgument_error (h : readArgument v = .error e) : e = .badArgument := by
  unfold readArgument at h
  split at h
  · cases h
  · cases h
  · split at h <;> cases h
    rfl
  · cases h
    rfl

theorem fails_readArgument : Fails (readArgument v) m ↔ Unreadable DenotesArgument v
    "data did not match any variant of untagged enum PseudoData" m := by
  apply fails_unreadable fun p => readArgument_eq_ok v p
  intro e he
  rw [readArgument_error he]
  rfl

theorem fails_actionNamed : Fails (actionNamed name) m ↔
    (∀ a : Action, name ≠ a.name) ∧ unknownAction name = m := by
  have hnone : Action.ofName? name = none ↔ ∀ a : Action, name ≠ a.name := by
    simp [Option.eq_none_iff_forall_ne_some, Action.ofName?_eq_some]
  rw [← hnone]
  unfold actionNamed
  cases Action.ofName? name with
  | some a => simp
  | none =>
    rw [fails_error, unknownAction_message]
    exact (and_iff_right rfl).symm

theorem fails_readUnit : Fails (readUnit .lenient v) m ↔
    (v ≠ .null ∧ v ≠ .object []) ∧ invalidType v "unit" = m := by
  unfold readUnit
  split
  · simp
  · simp
  · rename_i hnull hempty
    rw [fails_error, mismatch_message]
    exact (and_iff_right ⟨hnull, hempty rfl⟩).symm

theorem fails_readAction : Fails (readAction .lenient v) m ↔ ActionFault v m := by
  constructor
  · intro h
    unfold readAction at h
    split at h
    · obtain ⟨hname, rfl⟩ := fails_actionNamed.mp h
      exact .name hname
    · rcases fails_bind.mp h with h | ⟨a, ha, h⟩
      · obtain ⟨hname, rfl⟩ := fails_actionNamed.mp h
        exact .key hname
      · rw [actionNamed_eq_ok.mp ha]
        rcases fails_bind.mp h with h | ⟨_, _, h⟩
        · obtain ⟨⟨hnull, hempty⟩, rfl⟩ := fails_readUnit.mp h
          exact .unit a hnull hempty
        · exact (fails_ok h).elim
    · rename_i fields hone
      obtain rfl := fails_error.mp h
      refine .keys fun hlength => ?_
      obtain ⟨⟨name, w⟩, rfl⟩ := List.length_eq_one_iff.mp hlength
      exact hone name w rfl
    · rename_i hstring _ hobject
      obtain rfl := fails_error.mp h
      rw [mismatch_message]
      exact .shape hstring hobject
  · intro h
    cases h with
    | name h => exact fails_actionNamed.mpr ⟨h, rfl⟩
    | key h => exact fails_bind.mpr (.inl (fails_actionNamed.mpr ⟨h, rfl⟩))
    | unit a hnull hempty =>
      have hunit := fails_readUnit.mpr ⟨⟨hnull, hempty⟩, rfl⟩
      exact fails_bind.mpr (.inr ⟨a, actionNamed_eq_ok.mpr rfl, fails_bind.mpr (.inl hunit)⟩)
    | keys h =>
      rename_i fields
      match fields, h with
      | [], _ | _ :: _ :: _, _ => exact fails_error.mpr rfl
      | [_], h => exact (h rfl).elim
    | shape hstring hobject =>
      cases v with
      | string s => exact (hstring s rfl).elim
      | object fields => exact (hobject fields rfl).elim
      | _ => exact fails_error.mpr (mismatch_message _ .action)

theorem fails_readKind : Fails (readKind .strict v) m ↔ TagFault v m := by
  constructor
  · intro h
    unfold readKind at h
    split at h
    · rename_i name
      cases hk : Kind.ofName? name with
      | some k => simp [hk] at h
      | none =>
        rw [hk] at h
        obtain rfl := fails_error.mp h
        rw [unknownKind_message]
        refine .unknown fun k hname => ?_
        rw [Kind.ofName?_eq_some.mpr hname] at hk
        cases hk
    · rename_i hr
      cases hr
    · rename_i hstring _
      obtain rfl := fails_error.mp h
      rw [mismatch_message]
      exact .shape hstring
  · intro h
    cases h with
    | shape h =>
      cases v with
      | string s => exact (h s rfl).elim
      | _ => exact fails_error.mpr (mismatch_message _ .kind)
    | unknown h =>
      rename_i name
      have hnone : Kind.ofName? name = none := by
        simp [Option.eq_none_iff_forall_ne_some, Kind.ofName?_eq_some, h]
      simp only [readKind, hnone]
      exact fails_error.mpr (unknownKind_message name)

end Selectors
