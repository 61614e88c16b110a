import Selectors.Proofs.Grammar
import Selectors.Proofs.Outcome

namespace Selectors

set_option autoImplicit true

theorem Action.ofName?_eq_some : Action.ofName? n = some a ↔ n = a.name := by
  constructor
  · intro h
    have hn := List.find?_some h
    exact (beq_iff_eq.mp hn).symm
  · intro h
    rw [h, Action.ofName?_name]

theorem Kind.ofName?_eq_some : Kind.ofName? n = some k ↔ n = k.name := by
  constructor
  · intro h
    have hn := List.find?_some h
    exact (beq_iff_eq.mp hn).symm
  · intro h
    rw [h, Kind.ofName?_name]

theorem Kind.ofIndex?_eq_some :
    Kind.ofIndex? n = some k ↔ ∃ i : Nat, n = i ∧ Kind.all[i]? = some k := by
  unfold Kind.ofIndex?
  constructor
  · intro h
    split at h
    · exact ⟨n.toNat, by omega, h⟩
    · cases h
  · intro h
    obtain ⟨i, rfl, h⟩ := h
    simpa using h

theorem readString_eq_ok : readString v = .ok s ↔ DenotesString v s := by
  constructor
  · intro h
    cases v <;> cases h
    exact .string s
  · intro h
    obtain ⟨s⟩ := h
    rfl

theorem readOption_eq_ok : readOption v = .ok ns ↔ DenotesNamespace v ns := by
  constructor
  · intro h
    cases v <;> cases h
    · exact .null
    · exact .string _
  · intro h
    cases h <;> rfl

theorem actionNamed_eq_ok : actionNamed n = .ok a ↔ n = a.name := by
  rw [← Action.ofName?_eq_some]
  unfold actionNamed
  cases Action.ofName? n <;> simp

theorem readUnit_eq_ok :
    readUnit .lenient v = .ok u ↔ v = .null ∨ v = .object [] := by
  constructor
  · intro h
    unfold readUnit at h
    split at h
    · exact .inl rfl
    · exact .inr rfl
    · cases h
  · rintro (rfl | rfl) <;> rfl

theorem readAction_eq_ok : readAction .lenient v = .ok a ↔ DenotesAction v a := by
  constructor
  · intro h
    unfold readAction at h
    split at h
    · rw [actionNamed_eq_ok] at h
      subst h
      exact .name a
    · simp only [bind_eq_ok, actionNamed_eq_ok, readUnit_eq_ok] at h
      obtain ⟨b, rfl, _, hv, hab⟩ := h
      cases hab
      rcases hv with rfl | rfl
      · exact .unit a
      · exact .empty a
    · cases h
    · cases h
  · intro h
    have hname : actionNamed a.name = .ok a := actionNamed_eq_ok.mpr rfl
    cases h <;> simp [readAction, readUnit, hname]

theorem readCaseMode_eq_ok : readCaseMode v = .ok m ↔ DenotesCaseMode v m := by
  constructor
  · intro h
    unfold readCaseMode at h
    split at h
    · cases h; exact .insensitive
    · cases h; exact .sensitive
    · cases h; exact .null
    · split at h
      · cases h; subst_vars; exact .name
      · cases h
    · split at h
      · cases h; subst_vars; exact .unit
      · cases h
    · cases h
  · intro h
    cases h <;> simp [readCaseMode]

theorem readKind_eq_ok : readKind r v = .ok k ↔ DenotesKind r v k := by
  constructor
  · intro h
    unfold readKind at h
    split at h
    · split at h <;> cases h
      rename_i hk
      rw [Kind.ofName?_eq_some.mp hk]
      exact .name r k
    · split at h <;> cases h
      rename_i hk
      obtain ⟨i, rfl, hi⟩ := Kind.ofIndex?_eq_some.mp hk
      exact .index i hi
    · cases h
  · intro h
    cases h with
    | name => cases r <;> simp [readKind, Kind.ofName?_name]
    | index i hi => simp [readKind, Kind.ofIndex?_eq_some.mpr ⟨i, rfl, hi⟩]

theorem required_eq_ok : required e x? = .ok x ↔ x? = some x := by
  cases x? <;> simp [required]

theorem defaulted_none : Defaulted R d none x ↔ d = x := by
  constructor
  · intro h
    cases h
    rfl
  · intro h
    subst h
    exact .absent

theorem defaulted_some : Defaulted R d (some v) x ↔ R v x := by
  constructor
  · intro h
    rcases h with _ | h
    exact h
  · exact .present

section Present

variable {read : Json → Except Refusal α} {R : Json → α → Prop}

theorem readPresent_required (hread : ∀ v x, read v = .ok x ↔ R v x) :
    readPresent read v? = .ok (some x) ↔ Required R v? x := by
  cases v? with
  | none => exact ⟨nofun, nofun⟩
  | some v =>
    simp only [readPresent, bind_eq_ok, pure_eq_ok, Except.ok.injEq, Option.some.injEq, hread]
    constructor
    · intro h
      obtain ⟨y, h, rfl⟩ := h
      exact .present h
    · intro h
      obtain ⟨h⟩ := h
      exact ⟨x, h, rfl⟩

theorem readPresent_defaulted (hread : ∀ v x, read v = .ok x ↔ R v x) :
    (∃ x?, readPresent read v? = .ok x? ∧ x?.getD d = x) ↔ Defaulted R d v? x := by
  cases v? with
  | none =>
    simp only [readPresent, Except.ok.injEq, exists_eq_left', Option.getD_none, defaulted_none]
  | some v =>
    simp only [readPresent, bind_eq_ok, pure_eq_ok, Except.ok.injEq, hread, defaulted_some]
    constructor
    · intro h
      obtain ⟨_, ⟨y, h, rfl⟩, rfl⟩ := h
      exact h
    · intro h
      exact ⟨some x, ⟨x, h, rfl⟩, rfl⟩

/-- One level of options is the default of the other. -/
theorem readPresent_namespace :
    (∃ ns?, readPresent readOption v? = .ok ns? ∧ ns?.join = ns) ↔
      Defaulted DenotesNamespace none v? ns := by
  rw [← readPresent_defaulted fun _ _ => readOption_eq_ok]
  have hjoin : ∀ ns? : Option (Option String), ns?.join = ns?.getD none := by
    rintro (_ | _) <;> rfl
  simp only [hjoin]

end Present

section Fields

variable {fields : List (String × Json)}

theorem readFieldKind_eq_ok :
    readFieldKind fields r = .ok k ↔ Required (DenotesKind r) (fields.lookup "type") k := by
  unfold readFieldKind
  cases fields.lookup "type" with
  | none => exact ⟨nofun, nofun⟩
  | some tag => exact readKind_eq_ok.trans ⟨.present, fun ⟨h⟩ => h⟩

theorem readNameField_eq_ok : readNameField fields = .ok (some name) ↔
    Required DenotesString (fields.lookup "name") name :=
  readPresent_required fun _ _ => readString_eq_ok

theorem readNamespaceField_eq_ok : readNamespaceField fields = .ok ns ↔
    Defaulted DenotesNamespace none (fields.lookup "namespace") ns := by
  rw [← readPresent_namespace]
  simp only [readNamespaceField, readField, bind_eq_ok, pure_eq_ok, Except.ok.injEq]

theorem readTagFields_eq_ok : readTagFields fields = .ok t ↔
    DenotesFields .tag (fun key => fields.lookup key) t := by
  simp only [readTagFields, bind_eq_ok, pure_eq_ok, Except.ok.injEq, required_eq_ok, denotes_tag,
    ← readNameField_eq_ok, ← readNamespaceField_eq_ok]
  constructor
  · intro h
    obtain ⟨_, hname, ns, hns, name, rfl, rfl⟩ := h
    exact ⟨name, hname, ns, hns, rfl⟩
  · intro h
    obtain ⟨name, hname, ns, hns, rfl⟩ := h
    exact ⟨_, hname, ns, hns, name, rfl, rfl⟩

theorem readAttributeFields_eq_ok : readAttributeFields fields = .ok a ↔
    DenotesAttribute (fun key => fields.lookup key) a := by
  simp only [readAttributeFields, readField, bind_eq_ok, pure_eq_ok, Except.ok.injEq,
    required_eq_ok]
  constructor
  · intro h
    obtain ⟨_, haction, _, hcase, _, hname, ns, hns, _, hvalue, name, rfl, action, rfl, rfl⟩ := h
    exact
      { name := readNameField_eq_ok.mp hname
        action := (readPresent_required fun _ _ => readAction_eq_ok).mp haction
        value := (readPresent_defaulted fun _ _ => readString_eq_ok).mp ⟨_, hvalue, rfl⟩
        ns := readNamespaceField_eq_ok.mp hns
        caseMode := (readPresent_defaulted fun _ _ => readCaseMode_eq_ok).mp ⟨_, hcase, rfl⟩ }
  · intro h
    have haction := (readPresent_required fun _ _ => readAction_eq_ok).mpr h.action
    obtain ⟨_, hvalue, hv⟩ := (readPresent_defaulted fun _ _ => readString_eq_ok).mpr h.value
    obtain ⟨_, hcase, hc⟩ := (readPresent_defaulted fun _ _ => readCaseMode_eq_ok).mpr h.caseMode
    refine ⟨_, haction, _, hcase, _, readNameField_eq_ok.mpr h.name, _,
      readNamespaceField_eq_ok.mpr h.ns, _, hvalue, _, rfl, _, rfl, ?_⟩
    rw [hv, hc]

end Fields

section Items

variable {items : List Json}

theorem readRequiredItem_eq_ok {read : Json → Except Refusal α}
    (hread : ∀ v x, read v = .ok x ↔ R v x) :
    readRequiredItem items k i read = .ok x ↔ Required R items[i]? x := by
  rw [← readPresent_required hread]
  simp only [readRequiredItem, readItem, bind_eq_ok, required_eq_ok, exists_eq_right]

theorem readNamespaceItem_eq_ok : readNamespaceItem items i = .ok ns ↔
    Defaulted DenotesNamespace none items[i]? ns := by
  rw [← readPresent_namespace]
  simp only [readNamespaceItem, readItem, bind_eq_ok, pure_eq_ok, Except.ok.injEq]

theorem complete_eq_ok :
    complete items k x = .ok y ↔ items.length ≤ k.fields.length ∧ x = y := by
  unfold complete
  split <;> simp [*]

theorem readTagItems_eq_ok : readTagItems items = .ok t ↔
    items.length ≤ Kind.tag.fields.length ∧
      DenotesFields .tag (fun key => items[Kind.tag.fields.idxOf key]?) t := by
  simp only [readTagItems, bind_eq_ok, complete_eq_ok, denotes_tag,
    readRequiredItem_eq_ok fun _ _ => readString_eq_ok, readNamespaceItem_eq_ok]
  constructor
  · intro h
    obtain ⟨name, hname, ns, hns, hlength, rfl⟩ := h
    -- `idxOf` computes to the positions that were read
    exact ⟨hlength, name, hname, ns, hns, rfl⟩
  · intro h
    obtain ⟨hlength, name, hname, ns, hns, rfl⟩ := h
    exact ⟨name, hname, ns, hns, hlength, rfl⟩

theorem readAttributeItems_eq_ok : readAttributeItems items = .ok a ↔
    items.length ≤ Kind.attribute.fields.length ∧
      DenotesAttribute (fun key => items[Kind.attribute.fields.idxOf key]?) a := by
  simp only [readAttributeItems, readItem, bind_eq_ok, complete_eq_ok,
    readRequiredItem_eq_ok fun _ _ => readString_eq_ok,
    readRequiredItem_eq_ok fun _ _ => readAction_eq_ok, readNamespaceItem_eq_ok]
  constructor
  · intro h
    obtain ⟨name, hname, action, haction, _, hvalue, ns, hns, _, hcase, hlength, rfl⟩ := h
    exact ⟨hlength,
      { name := hname
        action := haction
        value := (readPresent_defaulted fun _ _ => readString_eq_ok).mp ⟨_, hvalue, rfl⟩
        ns := hns
        caseMode := (readPresent_defaulted fun _ _ => readCaseMode_eq_ok).mp ⟨_, hcase, rfl⟩ }⟩
  · intro h
    obtain ⟨hlength, h⟩ := h
    obtain ⟨_, hvalue, hv⟩ := (readPresent_defaulted fun _ _ => readString_eq_ok).mpr h.value
    obtain ⟨_, hcase, hc⟩ := (readPresent_defaulted fun _ _ => readCaseMode_eq_ok).mpr h.caseMode
    refine ⟨_, h.name, _, h.action, _, hvalue, _, h.ns, _, hcase, hlength, ?_⟩
    rw [hv, hc]

end Items

theorem readArgumentField_eq : ∀ fields : List (String × Json),
    readArgumentField fields = (fields.lookup "data").elim (.ok .absent) readArgument
  | [] => rfl
  | (key, v) :: fields => by
    rw [readArgumentField, List.lookup_cons]
    by_cases hkey : key = "data"
    · rw [if_pos hkey, hkey, beq_self_eq_true]
      rfl
    · rw [if_neg hkey, beq_false_of_ne (Ne.symm hkey)]
      exact readArgumentField_eq fields

theorem readArgumentItem_eq : ∀ items : List Json,
    readArgumentItem items = items[1]?.elim (.ok .absent) readArgument
  | [] | [_] | _ :: _ :: _ => rfl

/-- An object is read as its fields denote, if the data of a pseudo-class is. -/
theorem readToken_object
    (hdata : ∀ p, readArgumentField fields = .ok p ↔
      Defaulted DenotesArgument .absent (fields.lookup "data") p) :
    readToken r (.object fields) = .ok t ↔ DenotesToken r (.object fields) t := by
  rw [readToken, bind_eq_ok, denotes_object]
  refine exists_congr fun k => and_congr readFieldKind_eq_ok ?_
  cases k with
  | combinator c => simp only [denotes_combinator, pure_eq_ok, Except.ok.injEq]
  | universal =>
    simp only [denotes_universal, bind_eq_ok, readNamespaceField_eq_ok, pure_eq_ok, Except.ok.injEq]
  | tag => exact readTagFields_eq_ok
  | pseudoElement =>
    simp only [denotes_pseudoElement, ← readNameField_eq_ok, bind_eq_ok, required_eq_ok, pure_eq_ok,
      Except.ok.injEq]
    constructor
    · intro h
      obtain ⟨_, hname, name, rfl, rfl⟩ := h
      exact ⟨name, hname, rfl⟩
    · intro h
      obtain ⟨name, hname, rfl⟩ := h
      exact ⟨_, hname, name, rfl, rfl⟩
  | pseudo =>
    simp only [denotes_pseudo, ← readNameField_eq_ok, ← hdata, bind_eq_ok, required_eq_ok,
      pure_eq_ok, Except.ok.injEq]
    constructor
    · intro h
      obtain ⟨argument, hargument, _, hname, name, rfl, rfl⟩ := h
      exact ⟨name, hname, argument, hargument, rfl⟩
    · intro h
      obtain ⟨name, hname, argument, hargument, rfl⟩ := h
      exact ⟨argument, hargument, _, hname, name, rfl, rfl⟩
  | _ =>
    simp only [denotes_attribute, bind_eq_ok, readAttributeFields_eq_ok, pure_eq_ok,
      Except.ok.injEq]

theorem readToken_array
    (hdata : ∀ p, readArgumentItem items = .ok p ↔ Defaulted DenotesArgument .absent items[1]? p) :
    readToken r (.array (tag :: items)) = .ok t ↔ DenotesToken r (.array (tag :: items)) t := by
  rw [readToken, bind_eq_ok, denotes_array]
  refine exists_congr fun k => and_congr readKind_eq_ok ?_
  cases k with
  | combinator c => simp only [denotes_combinator, complete_eq_ok]
  | universal =>
    simp only [denotes_universal, bind_eq_ok, readNamespaceItem_eq_ok, complete_eq_ok]
    constructor
    · intro h
      obtain ⟨ns, hns, hlength, rfl⟩ := h
      exact ⟨hlength, ns, hns, rfl⟩
    · intro h
      obtain ⟨hlength, ns, hns, rfl⟩ := h
      exact ⟨ns, hns, hlength, rfl⟩
  | tag => exact readTagItems_eq_ok
  | pseudoElement =>
    simp only [denotes_pseudoElement, bind_eq_ok, complete_eq_ok,
      readRequiredItem_eq_ok fun _ _ => readString_eq_ok]
    constructor
    · intro h
      obtain ⟨name, hname, hlength, rfl⟩ := h
      exact ⟨hlength, name, hname, rfl⟩
    · intro h
      obtain ⟨hlength, name, hname, rfl⟩ := h
      exact ⟨name, hname, hlength, rfl⟩
  | pseudo =>
    simp only [denotes_pseudo, bind_eq_ok, complete_eq_ok, hdata,
      readRequiredItem_eq_ok fun _ _ => readString_eq_ok]
    constructor
    · intro h
      obtain ⟨name, hname, argument, hargument, hlength, rfl⟩ := h
      exact ⟨hlength, name, hname, argument, hargument, rfl⟩
    · intro h
      obtain ⟨hlength, name, hname, argument, hargument, rfl⟩ := h
      exact ⟨name, hname, argument, hargument, hlength, rfl⟩
  | _ =>
    simp only [denotes_attribute, bind_eq_ok, readAttributeItems_eq_ok, pure_eq_ok,
      Except.ok.injEq]
    constructor
    · intro h
      obtain ⟨a, ⟨hlength, h⟩, rfl⟩ := h
      exact ⟨hlength, a, h, rfl⟩
    · intro h
      obtain ⟨hlength, a, h, rfl⟩ := h
      exact ⟨a, ⟨hlength, h⟩, rfl⟩

mutual
/-- By recursion on the value, under any leniency: the data of a pseudo-class changes it. -/
theorem readToken_eq_ok : ∀ v, readToken r v = .ok t ↔ DenotesToken r v t
  | .object fields => readToken_object (readArgumentField_eq_ok fields)
  | .array (_ :: items) => readToken_array (readArgumentItem_eq_ok items)
  | .array [] => by
    simp only [readToken]
    exact ⟨nofun, nofun⟩
  | .null | .bool _ | .integer _ | .real _ | .string _ => by
    simp only [readToken]
    exact ⟨nofun, nofun⟩

theorem readArgument_eq_ok : ∀ v p, readArgument v = .ok p ↔ DenotesArgument v p
  | .null, p => by
    simp only [readArgument, Except.ok.injEq]
    constructor
    · intro h
      subst h
      exact .null
    · intro h
      rcases h with _ | _ | ⟨⟨⟩⟩
      rfl
  | .string s, p => by
    simp only [readArgument, Except.ok.injEq]
    constructor
    · intro h
      subst h
      exact .string s
    · intro h
      rcases h with _ | _ | ⟨⟨⟩⟩
      rfl
  | .array items, p => by
    -- a refusal inside is replaced by another one, and nothing else changes
    simp only [readArgument, denotes_data, ← readSequences_eq_ok items]
    cases readSequences .lenient items <;> simp
  | .bool _, _ | .integer _, _ | .real _, _ | .object _, _ => by
    simp only [readArgument]
    exact ⟨nofun, fun (.array h) => nomatch h⟩

theorem readArgumentField_eq_ok : ∀ fields p, readArgumentField fields = .ok p ↔
    Defaulted DenotesArgument .absent (fields.lookup "data") p
  | [], p => by
    simp only [readArgumentField, List.lookup_nil, Except.ok.injEq]
    exact defaulted_none.symm
  | (key, v) :: fields, p => by
    by_cases hkey : key = "data"
    · rw [readArgumentField, if_pos hkey, List.lookup_cons, hkey, beq_self_eq_true]
      exact (readArgument_eq_ok v p).trans defaulted_some.symm
    · rw [readArgumentField, if_neg hkey, List.lookup_cons, beq_false_of_ne (Ne.symm hkey)]
      exact readArgumentField_eq_ok fields p

theorem readArgumentItem_eq_ok : ∀ items p, readArgumentItem items = .ok p ↔
    Defaulted DenotesArgument .absent items[1]? p
  | [], p | [_], p => by
    simp only [readArgumentItem, Except.ok.injEq]
    exact defaulted_none.symm
  | _ :: v :: _, p => (readArgument_eq_ok v p).trans defaulted_some.symm

theorem readSequence_eq_ok : ∀ items s,
    readSequence r items = .ok s ↔ List.Forall₂ (DenotesToken r) items s
  | [], s => by
    simp only [readSequence, List.forall₂_nil_left_iff, Except.ok.injEq, eq_comm]
  | v :: items, s => by
    simp only [readSequence, bind_eq_ok, pure_eq_ok, Except.ok.injEq, readToken_eq_ok v,
      readSequence_eq_ok items, List.forall₂_cons_left_iff, exists_and_left, eq_comm (a := s)]

theorem readSequences_eq_ok : ∀ items list,
    readSequences r items = .ok list ↔ List.Forall₂ (DenotesArray (DenotesToken r)) items list
  | [], list => by
    simp only [readSequences, List.forall₂_nil_left_iff, Except.ok.injEq, eq_comm]
  | .array s :: items, list => by
    simp only [readSequences, bind_eq_ok, pure_eq_ok, Except.ok.injEq, readSequence_eq_ok s,
      readSequences_eq_ok items, List.forall₂_cons_left_iff, denotes_items, exists_and_left,
      eq_comm (a := list)]
  | .null :: _, _ | .bool _ :: _, _ | .integer _ :: _, _ | .real _ :: _, _ | .string _ :: _, _
  | .object _ :: _, _ => by
    simp only [readSequences]
    exact ⟨nofun, fun (.cons h _) => nomatch h⟩
end

/-- The decoder accepts its grammar and nothing else, and gives what a value denotes. -/
theorem decodeList_eq_ok_iff : decodeList v = .ok list ↔ DenotesList .strict v list := by
  unfold DenotesList
  cases v with
  | array items => exact (readSequences_eq_ok items list).trans denotes_items.symm
  | _ => exact ⟨nofun, nofun⟩

end Selectors
