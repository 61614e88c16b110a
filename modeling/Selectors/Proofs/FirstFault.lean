import Selectors.Proofs.Failure

namespace Selectors

set_option autoImplicit true

theorem fails_readPresent {read : Json → Except Refusal α} :
    Fails (readPresent read v?) m ↔ ∃ v, v? = some v ∧ Fails (read v) m := by
  cases v? with
  | none => simp [readPresent]
  | some v =>
    rw [readPresent, fails_bind_pure]
    simp

theorem refused_iff :
    Refused field key m ↔ ∃ v, field key = some v ∧ FieldFault key v m :=
  ⟨fun ⟨hv, h⟩ => ⟨_, hv, h⟩, fun ⟨_, hv, h⟩ => .present hv h⟩

section Fields

variable {fields : List (String × Json)}

theorem fails_readField {read : Json → Except Refusal α}
    (hread : ∀ v n, Fails (read v) n ↔ FieldFault key v n) :
    Fails (readField fields key read) m ↔ Refused (fun key => fields.lookup key) key m := by
  rw [readField, fails_readPresent, refused_iff]
  exact exists_congr fun v => and_congr_right' (hread v m)

theorem fails_readNameField :
    Fails (readNameField fields) m ↔ Refused (fun key => fields.lookup key) "name" m :=
  fails_readField fun _ _ => fails_readString

theorem fails_readNamespaceField :
    Fails (readNamespaceField fields) m ↔ Refused (fun key => fields.lookup key) "namespace" m :=
  fails_bind_pure.trans (fails_readField fun _ _ => fails_readOption)

theorem fails_readArgumentField :
    Fails (readArgumentField fields) m ↔ Refused (fun key => fields.lookup key) "data" m := by
  rw [readArgumentField_eq, refused_iff]
  cases fields.lookup "data" with
  | none => simp
  | some v =>
    simp only [Option.elim_some, Option.some.injEq, exists_eq_left']
    exact fails_readArgument

/-- What is read is absent only with its field. -/
theorem fails_required {read : Json → Except Refusal α} (h : readField fields key read = .ok x?) :
    Fails (required (.missingField key) x?) m ↔ Missing (fun key => fields.lookup key) key m := by
  unfold readField at h
  cases hkey : fields.lookup key with
  | none =>
    rw [hkey] at h
    cases h
    rw [required, fails_error, missingField_message]
    constructor
    · rintro rfl
      exact .absent hkey
    · rintro ⟨_⟩
      rfl
  | some v =>
    rw [hkey] at h
    obtain ⟨x, _, hx⟩ := bind_eq_ok.mp h
    cases hx
    refine ⟨fun h => (fails_ok h).elim, ?_⟩
    rintro ⟨hnone⟩
    rw [hkey] at hnone
    cases hnone

theorem fails_readFieldKind : Fails (readFieldKind fields .strict) m ↔
    (fields.lookup "type" = none ∧ missingField "type" = m) ∨
      ∃ tag, fields.lookup "type" = some tag ∧ TagFault tag m := by
  unfold readFieldKind
  cases fields.lookup "type" with
  | none =>
    rw [fails_error, missingField_message]
    constructor
    · intro h
      exact .inl ⟨rfl, h⟩
    · rintro (⟨_, h⟩ | ⟨_, h, _⟩)
      · exact h
      · cases h
  | some tag => simp [fails_readKind]

theorem fails_readTagFields : Fails (readTagFields fields) m ↔
    FirstOf (["name", "namespace"].map (Refused fun key => fields.lookup key) ++
      ["name"].map (Missing fun key => fields.lookup key)) m := by
  refine fails_bind_firstOf (fun _ => fails_readNameField) fun name hname => ?_
  refine fails_bind_firstOf (fun _ => fails_readNamespaceField) fun _ _ => ?_
  exact fails_bind_firstOf (fun _ => fails_required hname) fun _ _ => fails_ok_firstOf

theorem fails_readAttributeFields : Fails (readAttributeFields fields) m ↔
    FirstOf (["action", "ignoreCase", "name", "namespace", "value"].map
        (Refused fun key => fields.lookup key) ++
      ["name", "action"].map (Missing fun key => fields.lookup key)) m := by
  refine fails_bind_firstOf (fun _ => fails_readField fun _ _ => fails_readAction)
    fun action haction => ?_
  refine fails_bind_firstOf (fun _ => fails_readField fun _ _ => fails_readCaseMode) fun _ _ => ?_
  refine fails_bind_firstOf (fun _ => fails_readNameField) fun name hname => ?_
  refine fails_bind_firstOf (fun _ => fails_readNamespaceField) fun _ _ => ?_
  refine fails_bind_firstOf (fun _ => fails_readField fun _ _ => fails_readString) fun _ _ => ?_
  refine fails_bind_firstOf (fun _ => fails_required hname) fun _ _ => ?_
  exact fails_bind_firstOf (fun _ => fails_required haction) fun _ _ => fails_ok_firstOf

end Fields

section Items

variable {items : List Json} (k : Kind) (key : String)

theorem fails_readItem {read : Json → Except Refusal α}
    (hread : ∀ v n, Fails (read v) n ↔ FieldFault key v n) :
    Fails (readItem items (k.fields.idxOf key) read) m ↔
      Refused (fun key => items[k.fields.idxOf key]?) key m := by
  rw [readItem, fails_readPresent, refused_iff]
  exact exists_congr fun v => and_congr_right' (hread v m)

theorem itemFault_of_optional (hkey : key ∉ k.requiredFields) :
    ItemFault k items key m ↔ Refused (fun key => items[k.fields.idxOf key]?) key m := by
  constructor
  · intro h
    cases h with
    | refused h => exact h
    | missing h => exact (hkey h).elim
  · exact .refused

theorem fails_readOptionalItem {read : Json → Except Refusal α} (hkey : key ∉ k.requiredFields)
    (hread : ∀ v n, Fails (read v) n ↔ FieldFault key v n) :
    Fails (readItem items (k.fields.idxOf key) read) m ↔ ItemFault k items key m :=
  (fails_readItem k key hread).trans (itemFault_of_optional k key hkey).symm

theorem exists_record (hkey : key ∈ k.requiredFields) : ∃ expected, k.Record expected := by
  cases k with
  | combinator c => exact (List.not_mem_nil hkey).elim
  | universal => exact absurd hkey (by simp [Kind.requiredFields, Kind.fields])
  | _ => exact ⟨_, by constructor⟩

theorem exists_items : ∃ expected, k.Items expected := by
  cases k <;> exact ⟨_, by constructor⟩

theorem fails_readRequiredItem {read : Json → Except Refusal α} (hkey : key ∈ k.requiredFields)
    (hread : ∀ v n, Fails (read v) n ↔ FieldFault key v n) :
    Fails (readRequiredItem items k (k.fields.idxOf key) read) m ↔ ItemFault k items key m := by
  rw [readRequiredItem, fails_bind, fails_readItem k key hread]
  constructor
  · rintro (h | ⟨x?, hx, h⟩)
    · exact .refused h
    · cases hitem : items[k.fields.idxOf key]? with
      | none =>
        rw [readItem, hitem] at hx
        cases hx
        obtain ⟨expected, hk⟩ := exists_record k key hkey
        obtain rfl := fails_error.mp h
        rw [tooShort_message items hk]
        exact .missing hkey hk hitem
      | some v =>
        rw [readItem, hitem] at hx
        obtain ⟨x, _, hx⟩ := bind_eq_ok.mp hx
        cases hx
        exact (fails_ok h).elim
  · intro h
    cases h with
    | refused h => exact .inl h
    | missing _ hk hitem =>
      have hmessage := tooShort_message items hk
      exact .inr ⟨none, by rw [readItem, hitem]; rfl, fails_error.mpr hmessage⟩

theorem fails_complete {x : α} : Fails (complete items k x) m ↔ FirstOf [Surplus k items] m := by
  rw [firstOf_singleton]
  unfold complete
  split
  · rename_i h
    refine ⟨fun h => (fails_ok h).elim, ?_⟩
    rintro ⟨_, hlong⟩
    exact (Nat.not_lt_of_ge h hlong).elim
  · rename_i h
    rw [fails_error]
    constructor
    · rintro rfl
      obtain ⟨expected, hk⟩ := exists_items k
      rw [tooLong_message items hk]
      exact .items hk (Nat.lt_of_not_ge h)
    · rintro ⟨hk, _⟩
      exact tooLong_message items hk

theorem fails_readNameItem (hkey : "name" ∈ k.requiredFields) :
    Fails (readRequiredItem items k (k.fields.idxOf "name") readString) m ↔
      ItemFault k items "name" m :=
  fails_readRequiredItem k "name" hkey fun _ _ => fails_readString

theorem fails_readNamespaceItem (hkey : "namespace" ∉ k.requiredFields) :
    Fails (readNamespaceItem items (k.fields.idxOf "namespace")) m ↔
      ItemFault k items "namespace" m :=
  fails_bind_pure.trans (fails_readOptionalItem k "namespace" hkey fun _ _ => fails_readOption)

theorem fails_readArgumentItem :
    Fails (readArgumentItem items) m ↔ ItemFault .pseudo items "data" m := by
  have hitem : Refused (fun key => items[Kind.pseudo.fields.idxOf key]?) "data" m ↔
      ∃ v, items[1]? = some v ∧ FieldFault "data" v m := refused_iff
  rw [readArgumentItem_eq, itemFault_of_optional .pseudo "data" (by decide), hitem]
  cases items[1]? with
  | none => simp
  | some v =>
    simp only [Option.elim_some, Option.some.injEq, exists_eq_left']
    exact fails_readArgument

theorem fails_readTagItems : Fails (readTagItems items) m ↔
    FirstOf (Kind.tag.fields.map (ItemFault .tag items) ++ [Surplus .tag items]) m := by
  refine fails_bind_firstOf (fun _ => fails_readNameItem .tag (by decide)) fun _ _ => ?_
  refine fails_bind_firstOf (fun _ => fails_readNamespaceItem .tag (by decide)) fun _ _ => ?_
  exact fails_complete .tag

theorem fails_readAttributeItems : Fails (readAttributeItems items) m ↔
    FirstOf (Kind.attribute.fields.map (ItemFault .attribute items) ++
      [Surplus .attribute items]) m := by
  refine fails_bind_firstOf (fun _ => fails_readNameItem .attribute (by decide)) fun _ _ => ?_
  refine fails_bind_firstOf (fun _ => fails_readRequiredItem .attribute "action" (by decide)
    fun _ _ => fails_readAction) fun _ _ => ?_
  refine fails_bind_firstOf (fun _ => fails_readOptionalItem .attribute "value" (by decide)
    fun _ _ => fails_readString) fun _ _ => ?_
  refine fails_bind_firstOf (fun _ => fails_readNamespaceItem .attribute (by decide))
    fun _ _ => ?_
  refine fails_bind_firstOf (fun _ => fails_readOptionalItem .attribute "ignoreCase" (by decide)
    fun _ _ => fails_readCaseMode) fun _ _ => ?_
  exact fails_complete .attribute

end Items

theorem leastRefused_iff : LeastRefused field keys m ↔ ∃ key ∈ keys, Refused field key m ∧
    ∀ other ∈ keys, other < key → (Refused field other).Absent := by
  constructor
  · rintro ⟨hkey, h, hleast⟩
    exact ⟨_, hkey, h, hleast⟩
  · rintro ⟨key, hkey, h, hleast⟩
    exact .least hkey h hleast

/-- The faults of an object with the fields of `k`, once their names are put in order. -/
theorem firstOf_fields {k : Kind} (keys : List String) (h : keys.Pairwise (· < ·))
    (hperm : keys.Perm k.fields) :
    FirstOf (keys.map (Refused field) ++ k.requiredFields.map (Missing field)) m ↔
      LeastRefused field k.fields m ∨
        (∀ key ∈ k.fields, (Refused field key).Absent) ∧
          FirstOf (k.requiredFields.map (Missing field)) m := by
  rw [firstOf_append, firstOf_ascending h, leastRefused_iff, List.forall_mem_map]
  simp only [hperm.mem_iff]

theorem tokenFault_object : TokenFault (.object fields) m ↔
    ((fields.lookup "type" = none ∧ missingField "type" = m) ∨
      ∃ tag, fields.lookup "type" = some tag ∧ TagFault tag m) ∨
    ∃ k, Required (DenotesKind .strict) (fields.lookup "type") k ∧
      (LeastRefused (fun key => fields.lookup key) k.fields m ∨
        (∀ key ∈ k.fields, (Refused (fun key => fields.lookup key) key).Absent) ∧
          FirstOf (k.requiredFields.map (Missing fun key => fields.lookup key)) m) := by
  constructor
  · intro h
    cases h with
    | shape hobject _ => exact (hobject fields rfl).elim
    | untagged h => exact .inl (.inl ⟨h, rfl⟩)
    | tag htag h => exact .inl (.inr ⟨_, htag, h⟩)
    | field htag h => exact .inr ⟨_, htag, .inl h⟩
    | missing htag hfields h => exact .inr ⟨_, htag, .inr ⟨hfields, h⟩⟩
  · rintro ((⟨h, rfl⟩ | ⟨tag, htag, h⟩) | ⟨k, htag, h | ⟨hfields, h⟩⟩)
    · exact .untagged h
    · exact .tag htag h
    · exact .field htag h
    · exact .missing htag hfields h

theorem tokenFault_array : TokenFault (.array (tag :: items)) m ↔ TagFault tag m ∨
    ∃ k, DenotesKind .strict tag k ∧
      FirstOf (k.fields.map (ItemFault k items) ++ [Surplus k items]) m := by
  simp only [firstOf_append, firstOf_singleton, List.forall_mem_map]
  constructor
  · intro h
    cases h with
    | shape _ harray => exact (harray _ rfl).elim
    | firstItem h => exact .inl h
    | item htag h => exact .inr ⟨_, htag, .inl h⟩
    | surplus htag hitems h => exact .inr ⟨_, htag, .inr ⟨hitems, h⟩⟩
  · rintro (h | ⟨k, htag, h | ⟨hitems, h⟩⟩)
    · exact .firstItem h
    · exact .item htag h
    · exact .surplus htag hitems h

theorem fails_readToken_object :
    Fails (readToken .strict (.object fields)) m ↔ TokenFault (.object fields) m := by
  rw [readToken, fails_bind, tokenFault_object, fails_readFieldKind]
  refine or_congr_right (exists_congr fun k => and_congr readFieldKind_eq_ok ?_)
  cases k with
  | combinator c =>
    rw [← firstOf_fields [] .nil .nil]
    exact fails_ok_firstOf
  | universal =>
    rw [← firstOf_fields ["namespace"] (by decide) (by decide)]
    exact fails_bind_firstOf (fun _ => fails_readNamespaceField) fun _ _ => fails_ok_firstOf
  | tag =>
    rw [← firstOf_fields ["name", "namespace"] (by decide) (by decide)]
    exact fails_readTagFields
  | pseudoElement =>
    rw [← firstOf_fields ["name"] (by decide) (by decide)]
    refine fails_bind_firstOf (fun _ => fails_readNameField) fun name hname => ?_
    exact fails_bind_firstOf (fun _ => fails_required hname) fun _ _ => fails_ok_firstOf
  | pseudo =>
    rw [← firstOf_fields ["data", "name"] (by decide) (by decide)]
    refine fails_bind_firstOf (fun _ => fails_readArgumentField) fun _ _ => ?_
    refine fails_bind_firstOf (fun _ => fails_readNameField) fun name hname => ?_
    exact fails_bind_firstOf (fun _ => fails_required hname) fun _ _ => fails_ok_firstOf
  | _ =>
    rw [← firstOf_fields ["action", "ignoreCase", "name", "namespace", "value"] (by decide)
      (by decide)]
    exact fails_bind_pure.trans fails_readAttributeFields

theorem fails_readToken_array :
    Fails (readToken .strict (.array (tag :: items))) m ↔ TokenFault (.array (tag :: items)) m := by
  rw [readToken, fails_bind, tokenFault_array, fails_readKind]
  refine or_congr_right (exists_congr fun k => and_congr readKind_eq_ok ?_)
  cases k with
  | combinator c => exact fails_complete (.combinator c)
  | universal =>
    refine fails_bind_firstOf (fun _ => fails_readNamespaceItem .universal (by decide))
      fun _ _ => ?_
    exact fails_complete .universal
  | tag => exact fails_readTagItems
  | pseudoElement =>
    refine fails_bind_firstOf (fun _ => fails_readNameItem .pseudoElement (by decide))
      fun _ _ => ?_
    exact fails_complete .pseudoElement
  | pseudo =>
    refine fails_bind_firstOf (fun _ => fails_readNameItem .pseudo (by decide)) fun _ _ => ?_
    refine fails_bind_firstOf (fun _ => fails_readArgumentItem) fun _ _ => ?_
    exact fails_complete .pseudo
  | _ => exact fails_bind_pure.trans fails_readAttributeItems

theorem fails_readToken : Fails (readToken .strict v) m ↔ TokenFault v m := by
  have hshape (v : Json) (hobject : ∀ fields, v ≠ .object fields)
      (harray : ∀ items, v ≠ .array items) :
      invalidType v "internally tagged enum Selector" = m ↔ TokenFault v m := by
    constructor
    · rintro rfl
      exact .shape hobject harray
    · intro h
      cases h with
      | shape => rfl
      | empty => exact (harray [] rfl).elim
      | untagged | tag | field | missing => exact (hobject _ rfl).elim
      | firstItem | item | surplus => exact (harray _ rfl).elim
  cases v with
  | object fields => exact fails_readToken_object
  | array items =>
    cases items with
    | cons tag items => exact fails_readToken_array
    | nil =>
      rw [readToken, fails_error, missingField_message]
      constructor
      · rintro rfl
        exact .empty
      · intro h
        cases h with
        | shape _ harray => exact (harray [] rfl).elim
        | empty => rfl
  | _ =>
    rw [readToken, fails_error, mismatch_message]
    · exact hshape _ nofun nofun
    all_goals nofun

theorem fails_readSequence (items : List Json) :
    Fails (readSequence .strict items) m ↔ FirstOf (items.map TokenFault) m := by
  induction items with
  | nil => exact fails_ok_firstOf
  | cons v items ih =>
    refine fails_bind_firstOf (fun _ => fails_readToken) fun _ _ => ?_
    exact fails_bind_pure.trans ih

theorem arrayFault_array {F : Json → Fault} :
    ArrayFault F (.array items) m ↔ FirstOf (items.map F) m := by
  constructor
  · intro h
    cases h with
    | shape h => exact (h items rfl).elim
    | item h => exact h
  · exact .item

theorem fails_no_array {F : Json → Fault} (hv : ∀ items, v ≠ .array items) :
    Fails (.error (.mismatch v.shape .sequence) : Except Refusal α) m ↔ ArrayFault F v m := by
  rw [fails_error, mismatch_message]
  constructor
  · rintro rfl
    exact .shape hv
  · intro h
    cases h with
    | shape => rfl
    | item => exact (hv _ rfl).elim

theorem fails_readSequences (items : List Json) :
    Fails (readSequences .strict items) m ↔ FirstOf (items.map (ArrayFault TokenFault)) m := by
  induction items with
  | nil => exact fails_ok_firstOf
  | cons v items ih =>
    cases v with
    | array s =>
      refine fails_bind_firstOf (fun _ => (fails_readSequence s).trans arrayFault_array.symm)
        fun _ _ => ?_
      exact fails_bind_pure.trans ih
    | _ =>
      -- nothing behind it is read
      rw [List.map_cons, firstOf_cons, readSequences]
      · refine (fails_no_array (by nofun)).trans (or_iff_left fun h => ?_).symm
        exact h.1 _ (.shape (by nofun))
      · nofun

/-- A refused list is refused for its first fault in reading order. -/
theorem decodeList_refusal_iff :
    (∃ e, decodeList v = .error e ∧ e.message = m) ↔ ListFault v m := by
  unfold ListFault
  cases v with
  | array items => exact (fails_readSequences items).trans arrayFault_array.symm
  | _ => exact fails_no_array nofun

/-- The action comes before the name, and both before what is missing. -/
example : decodeList (.array [.array [.object [("type", .string "attribute"), ("name", .null),
    ("action", .string "is")]], .null]) = .error (.unknownAction "is") :=
  rfl

end Selectors
