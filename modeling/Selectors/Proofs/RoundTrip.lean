import Selectors.Proofs.Decoding
import Selectors.Token.Encode

namespace Selectors

set_option autoImplicit true

/-- The fields that may be left out, with what they then hold. -/
def defaultFields : List (String × Json) :=
  [("namespace", .null), ("data", .null), ("value", .string ""), ("ignoreCase", .string "quirks")]

mutual
/-- Some of the fields that hold their default are deleted, in any of the objects. -/
inductive Trims : Json → Json → Prop
  | same (v : Json) : Trims v v
  | array (h : List.Forall₂ Trims items items') : Trims (.array items) (.array items')
  | object (h : TrimsFields fields fields') : Trims (.object fields) (.object fields')

inductive TrimsFields : List (String × Json) → List (String × Json) → Prop
  | nil : TrimsFields [] []
  | keep (hv : Trims v v') (h : TrimsFields fields fields') :
      TrimsFields ((key, v) :: fields) ((key, v') :: fields')
  | drop (hdefault : (key, v) ∈ defaultFields) (h : TrimsFields fields fields') :
      TrimsFields ((key, v) :: fields) fields'
end

theorem TrimsFields.refl (fields : List (String × Json)) : TrimsFields fields fields := by
  induction fields with
  | nil => exact .nil
  | cons field fields ih => exact .keep (.same _) ih

theorem trims_array :
    Trims (.array items) v ↔ ∃ items', List.Forall₂ Trims items items' ∧ .array items' = v := by
  constructor
  · intro h
    cases h with
    | same => exact ⟨items, List.forall₂_same.mpr fun v _ => .same v, rfl⟩
    | array h => exact ⟨_, h, rfl⟩
  · intro h
    obtain ⟨items', h, rfl⟩ := h
    exact .array h

theorem trims_object :
    Trims (.object fields) v ↔ ∃ fields', TrimsFields fields fields' ∧ .object fields' = v := by
  constructor
  · intro h
    cases h with
    | same => exact ⟨fields, .refl fields, rfl⟩
    | object h => exact ⟨_, h, rfl⟩
  · intro h
    obtain ⟨fields', h, rfl⟩ := h
    exact .object h

/-- A value that contains no other. -/
def Json.IsFlat : Json → Prop
  | .array _ | .object _ => False
  | _ => True

theorem Trims.eq_of_flat (h : Trims v v') (hv : v.IsFlat) : v' = v := by
  cases h with
  | same => rfl
  | array => exact hv.elim
  | object => exact hv.elim

theorem Trims.denotes_flat {R : Json → α → Prop} (h : Trims v v') (hv : v.IsFlat) (hx : R v x) :
    R v' x := by
  rw [h.eq_of_flat hv]
  exact hx

theorem TrimsFields.lookup_eq_none (h : TrimsFields fields fields')
    (hkey : key ∉ fields.map Prod.fst) : fields'.lookup key = none := by
  induction fields generalizing fields' with
  | nil =>
    cases h
    rfl
  | cons field fields ih =>
    rw [List.map_cons, List.mem_cons, not_or] at hkey
    cases h with
    | keep hv h =>
      rw [List.lookup_cons, beq_false_of_ne hkey.1]
      exact ih h hkey.2
    | drop hdefault h => exact ih h hkey.2

/-- A field is kept with a trimmed value, or it held its default. -/
theorem TrimsFields.lookup (h : TrimsFields fields fields')
    (hkeys : (fields.map Prod.fst).Nodup) (hkey : fields.lookup key = some v) :
    (∃ v', Trims v v' ∧ fields'.lookup key = some v') ∨
      ((key, v) ∈ defaultFields ∧ fields'.lookup key = none) := by
  induction fields generalizing fields' with
  | nil => cases hkey
  | cons field fields ih =>
    rw [List.map_cons, List.nodup_cons] at hkeys
    obtain ⟨other, w⟩ := field
    rw [List.lookup_cons] at hkey
    by_cases hother : key = other
    · subst hother
      rw [beq_self_eq_true] at hkey
      cases hkey
      cases h with
      | keep hv h => exact .inl ⟨_, hv, by rw [List.lookup_cons, beq_self_eq_true]⟩
      | drop hdefault h =>
        -- the deleted key stands nowhere else
        exact .inr ⟨hdefault, h.lookup_eq_none hkeys.1⟩
    · rw [beq_false_of_ne hother] at hkey
      cases h with
      | keep hv h =>
        rw [List.lookup_cons, beq_false_of_ne hother]
        exact ih h hkeys.2 hkey
      | drop hdefault h => exact ih h hkeys.2 hkey

theorem TrimsFields.required (h : TrimsFields fields fields')
    (hkeys : (fields.map Prod.fst).Nodup) (hkey : fields.lookup key = some v)
    (hdefault : (key, v) ∉ defaultFields) (hv : ∀ v', Trims v v' → R v' x) :
    Required R (fields'.lookup key) x := by
  rcases h.lookup hkeys hkey with ⟨v', hv', hkey'⟩ | ⟨hmem, -⟩
  · rw [hkey']
    exact .present (hv v' hv')
  · exact absurd hmem hdefault

theorem TrimsFields.defaulted (h : TrimsFields fields fields')
    (hkeys : (fields.map Prod.fst).Nodup) (hkey : fields.lookup key = some v)
    (hdefault : (key, v) ∈ defaultFields → d = x) (hv : ∀ v', Trims v v' → R v' x) :
    Defaulted R d (fields'.lookup key) x := by
  rcases h.lookup hkeys hkey with ⟨v', hv', hkey'⟩ | ⟨hmem, hkey'⟩
  · rw [hkey']
    exact .present (hv v' hv')
  · rw [hkey', hdefault hmem]
    exact .absent

theorem Kind.keys_nodup (k : Kind) : ("type" :: k.fields).Nodup := by
  cases k with
  | combinator c => simp [Kind.fields]
  | _ => decide

/-- A written token denotes what its fields denote, after any deletions. -/
theorem DenotesToken.of_trims (h : Trims (encodeObject k fields) v)
    (hkeys : fields.map Prod.fst = k.fields)
    (hfields : ∀ fields', TrimsFields (("type", .string k.name) :: fields) fields' →
      DenotesFields k (fun key => fields'.lookup key) t) : DenotesToken r v t := by
  obtain ⟨fields', hf, rfl⟩ := trims_object.mp h
  have hnodup : ((("type", Json.string k.name) :: fields).map Prod.fst).Nodup := by
    rw [List.map_cons, hkeys]
    exact k.keys_nodup
  have htag : Required (DenotesKind r) (fields'.lookup "type") k := by
    apply hf.required hnodup List.lookup_cons_self (by simp [defaultFields])
    intro v' hv
    exact hv.denotes_flat trivial (.name r k)
  exact .object htag (hfields fields' hf)

theorem encodeOption_denotes (ns : Option String) :
    (encodeOption ns).IsFlat ∧ DenotesNamespace (encodeOption ns) ns := by
  cases ns with
  | none => exact ⟨trivial, .null⟩
  | some s => exact ⟨trivial, .string s⟩

theorem CaseMode.encode_denotes (m : CaseMode) : m.encode.IsFlat ∧ DenotesCaseMode m.encode m := by
  cases m with
  | insensitive => exact ⟨trivial, .insensitive⟩
  | sensitive => exact ⟨trivial, .sensitive⟩
  | unflagged => exact ⟨trivial, .name⟩

section Fields

variable {fields fields' : List (String × Json)}

theorem TrimsFields.name (h : TrimsFields fields fields')
    (hkeys : (fields.map Prod.fst).Nodup) (hkey : fields.lookup "name" = some (.string s)) :
    Required DenotesString (fields'.lookup "name") s := by
  apply h.required hkeys hkey (by simp [defaultFields])
  intro v' hv
  exact hv.denotes_flat trivial (.string s)

theorem TrimsFields.namespace (h : TrimsFields fields fields')
    (hkeys : (fields.map Prod.fst).Nodup)
    (hkey : fields.lookup "namespace" = some (encodeOption ns)) :
    Defaulted DenotesNamespace none (fields'.lookup "namespace") ns := by
  apply h.defaulted hkeys hkey
  · cases ns <;> simp [defaultFields, encodeOption]
  · intro v' hv
    obtain ⟨hflat, hns⟩ := encodeOption_denotes ns
    exact hv.denotes_flat hflat hns

theorem TrimsFields.action (h : TrimsFields fields fields')
    (hkeys : (fields.map Prod.fst).Nodup) (hkey : fields.lookup "action" = some (Action.encode a)) :
    Required DenotesAction (fields'.lookup "action") a := by
  apply h.required hkeys hkey (by simp [defaultFields])
  intro v' hv
  exact hv.denotes_flat trivial (.name a)

theorem TrimsFields.value (h : TrimsFields fields fields')
    (hkeys : (fields.map Prod.fst).Nodup) (hkey : fields.lookup "value" = some (.string s)) :
    Defaulted DenotesString "" (fields'.lookup "value") s := by
  apply h.defaulted hkeys hkey
  · intro hmem
    have hs : s = "" := by simpa [defaultFields] using hmem
    exact hs.symm
  · intro v' hv
    exact hv.denotes_flat trivial (.string s)

theorem TrimsFields.caseMode (h : TrimsFields fields fields')
    (hkeys : (fields.map Prod.fst).Nodup)
    (hkey : fields.lookup "ignoreCase" = some (CaseMode.encode m)) :
    Defaulted DenotesCaseMode .unflagged (fields'.lookup "ignoreCase") m := by
  apply h.defaulted hkeys hkey
  · cases m <;> simp [defaultFields, CaseMode.encode]
  · intro v' hv
    obtain ⟨hflat, hm⟩ := m.encode_denotes
    exact hv.denotes_flat hflat hm

end Fields

theorem TrimsFields.attribute (a : Attribute)
    (h : TrimsFields (("type", .string Kind.attribute.name) :: a.fields) fields') :
    DenotesAttribute (fun key => fields'.lookup key) a := by
  have hkeys := Kind.attribute.keys_nodup
  exact
    { name := h.name hkeys rfl
      action := h.action hkeys rfl
      value := h.value hkeys rfl
      ns := h.namespace hkeys rfl
      caseMode := h.caseMode hkeys rfl }

theorem Argument.eq_absent (h : ("data", Argument.encode p) ∈ defaultFields) : .absent = p := by
  cases p with
  | absent => rfl
  | text s => simp [Argument.encode, defaultFields] at h
  | selectors list => simp [Argument.encode, defaultFields] at h

mutual
theorem Token.denotes_of_trims : ∀ t : Token, Trims t.encode v → DenotesToken r v t
  | .combinator c => by
    intro h
    exact .of_trims h rfl fun _ _ => .combinator c
  | .universal ns => by
    intro h
    refine .of_trims h rfl fun fields' hf => ?_
    exact .universal (hf.namespace Kind.universal.keys_nodup rfl)
  | .tag name ns => by
    intro h
    refine .of_trims h rfl fun fields' hf => ?_
    have hkeys := Kind.tag.keys_nodup
    exact .tag (hf.name hkeys rfl) (hf.namespace hkeys rfl)
  | .pseudoElement name => by
    intro h
    refine .of_trims h rfl fun fields' hf => ?_
    exact .pseudoElement (hf.name Kind.pseudoElement.keys_nodup rfl)
  | .pseudo name p => by
    intro h
    refine .of_trims h rfl fun fields' hf => ?_
    have hkeys := Kind.pseudo.keys_nodup
    exact .pseudo (hf.name hkeys rfl)
      (hf.defaulted hkeys rfl Argument.eq_absent fun v' hv => p.denotes_of_trims hv)
  | .attribute a => by
    intro h
    exact .of_trims h rfl fun fields' hf => .attribute (hf.attribute a)

theorem Argument.denotes_of_trims : ∀ p : Argument, Trims p.encode v → DenotesArgument v p
  | .absent => by
    intro h
    exact h.denotes_flat trivial .null
  | .text s => by
    intro h
    exact h.denotes_flat trivial (.string s)
  | .selectors list => by
    intro h
    obtain ⟨items, hitems, rfl⟩ := trims_array.mp h
    exact .array (.items (denotes_sequences_of_trims list hitems))

theorem denotes_sequence_of_trims : ∀ s : List Token,
    List.Forall₂ Trims (encodeSequence s) items → List.Forall₂ (DenotesToken r) items s
  | [] => by
    intro h
    cases h
    exact .nil
  | t :: s => by
    intro h
    cases h with
    | cons ht hs => exact .cons (t.denotes_of_trims ht) (denotes_sequence_of_trims s hs)

theorem denotes_sequences_of_trims : ∀ list : List (List Token),
    List.Forall₂ Trims (encodeSequences list) items →
      List.Forall₂ (DenotesArray (DenotesToken r)) items list
  | [] => by
    intro h
    cases h
    exact .nil
  | s :: list => by
    intro h
    cases h with
    | cons hs hlist =>
      obtain ⟨items, hitems, rfl⟩ := trims_array.mp hs
      exact .cons (.items (denotes_sequence_of_trims s hitems))
        (denotes_sequences_of_trims list hlist)
end

theorem decodeList_of_trims (h : Trims (encodeList list) v) : decodeList v = .ok list := by
  obtain ⟨items, hitems, rfl⟩ := trims_array.mp h
  exact (readSequences_eq_ok items list).mpr (denotes_sequences_of_trims list hitems)

/-- Decoding undoes encoding, also after fields that hold their default are deleted. -/
theorem decodeList_encodeList (list : SelectorList) :
    decodeList (encodeList list) = .ok list ∧
      ∀ v, Trims (encodeList list) v → decodeList v = .ok list :=
  ⟨decodeList_of_trims (.same _), fun _ h => decodeList_of_trims h⟩

/-- `:not(a)` without the namespace of its `a`, next to an empty sequence. -/
theorem decodeList_encodeList_not : decodeList
    (.array [.array [.object [("type", .string "pseudo"), ("name", .string "not"),
      ("data", .array [.array [.object [("type", .string "tag"), ("name", .string "a")]]])]],
      .array []]) = .ok [[.pseudo "not" (.selectors [[.tag "a" none]])], []] := by
  refine (decodeList_encodeList [[.pseudo "not" (.selectors [[.tag "a" none]])], []]).2 _ ?_
  have htag : Trims (Token.tag "a" none).encode
      (.object [("type", .string "tag"), ("name", .string "a")]) :=
    .object (.keep (.same _) (.keep (.same _) (.drop (by simp [defaultFields, encodeOption]) .nil)))
  have hdata := Trims.array (.cons (.array (.cons htag .nil)) .nil)
  refine .array (.cons (.array (.cons (.object ?_) .nil)) (.cons (.same _) .nil))
  exact .keep (.same _) (.keep (.same _) (.keep hdata .nil))

end Selectors
