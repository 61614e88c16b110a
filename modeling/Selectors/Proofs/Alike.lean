import Selectors.Proofs.Failure

namespace Selectors

set_option autoImplicit true

/-- What a value is read as at its place. -/
inductive Role
  | list
  | sequence
  | token
  | field

/-- The only lists inside of a token are its data, the third item or the field of that name. -/
def Role.item : Role → (index : Nat) → Role
  | .list, _ => .sequence
  | .sequence, _ => .token
  | .token, 2 => .list
  | .token, _ | .field, _ => .field

def Role.member : Role → (key : String) → Role
  | .token, key => if key = "data" then .list else .field
  | _, _ => .field

theorem Role.item_succ_cases (i : Nat) :
    Role.token.item (i + 1) = .list ∨ Role.token.item (i + 1) = .field := by
  match i with
  | 0 | _ + 2 => exact .inr rfl
  | 1 => exact .inl rfl

theorem Role.member_cases (role : Role) (key : String) :
    role.member key = .list ∨ role.member key = .field := by
  cases role with
  | token =>
    by_cases hkey : key = "data"
    · exact .inl (if_pos hkey)
    · exact .inr (if_neg hkey)
  | _ => exact .inr rfl

/-- No reader of a field tells the values apart. -/
structure Alike (v v' : Json) : Prop where
  string : readString v = readString v'
  ns : readOption v = readOption v'
  unit : readUnit .lenient v = readUnit .lenient v'
  action : readAction .lenient v = readAction .lenient v'
  caseMode : readCaseMode v = readCaseMode v'
  kind (r : Leniency) : readKind r v = readKind r v'

theorem Alike.refl (v : Json) : Alike v v :=
  ⟨rfl, rfl, rfl, rfl, rfl, fun _ => rfl⟩

theorem Alike.array (items items' : List Json) : Alike (.array items) (.array items') where
  string := rfl
  ns := rfl
  unit := rfl
  action := rfl
  caseMode := rfl
  kind r := by cases r <;> rfl

theorem readAction_of_length (h : fields.length ≠ 1) :
    readAction r (.object fields) = .error .notOneKey := by
  match fields, h with
  | [], _ | _ :: _ :: _, _ => rfl
  | [_], h => exact (h rfl).elim

theorem readCaseMode_of_not (h : ∀ m, ¬ DenotesCaseMode v m) :
    readCaseMode v = .error .badCaseMode := by
  cases hread : readCaseMode v with
  | error e => rw [readCaseMode_error hread]
  | ok m => exact (h m (readCaseMode_eq_ok.mp hread)).elim

theorem Alike.null_iff (h : Alike v v') : v = .null ↔ v' = .null := by
  have hnull (w : Json) : w = .null ↔ DenotesNamespace w none := by
    constructor
    · intro hw
      subst hw
      exact .null
    · intro hw
      cases hw
      rfl
  rw [hnull, hnull, ← readOption_eq_ok, ← readOption_eq_ok, h.ns]

/-- Only an object of one field is read further, and only an empty one is a unit. -/
theorem Alike.object_of_length (h : fields.length = fields'.length) (hone : fields.length ≠ 1) :
    Alike (.object fields) (.object fields') where
  string := rfl
  ns := rfl
  unit := by
    cases fields with
    | nil => rw [List.length_eq_zero_iff.mp h.symm]
    | cons field fields =>
      cases fields' with
      | nil => cases h
      | cons field' fields' => rfl
  action := by
    have hone' : fields'.length ≠ 1 := h ▸ hone
    rw [readAction_of_length hone, readAction_of_length hone']
  caseMode := by
    have hnot (fs : List (String × Json)) (hfs : fs.length ≠ 1) :
        readCaseMode (.object fs) = .error .badCaseMode := by
      apply readCaseMode_of_not
      intro m hm
      cases hm
      exact hfs rfl
    rw [hnot _ hone, hnot _ (h ▸ hone)]
  kind r := by cases r <;> rfl

theorem Alike.object_single (h : Alike v v') :
    Alike (.object [(key, v)]) (.object [(key, v')]) where
  string := rfl
  ns := rfl
  unit := rfl
  action := by simp only [readAction, h.unit]
  caseMode := by
    have hnot (w : Json) (hw : w ≠ .null) :
        readCaseMode (.object [(key, w)]) = .error .badCaseMode := by
      apply readCaseMode_of_not
      intro m hm
      cases hm
      exact hw rfl
    by_cases hv : v = .null
    · rw [h.null_iff.mp hv, hv]
    · rw [hnot _ hv, hnot _ (mt h.null_iff.mpr hv)]
  kind r := by cases r <;> rfl

theorem Alike.permute (h : fields.Perm fields') : Alike (.object fields) (.object fields') := by
  by_cases hone : fields.length = 1
  · obtain ⟨field, rfl⟩ := List.length_eq_one_iff.mp hone
    rw [List.singleton_perm.mp h]
    exact .refl _
  · exact .object_of_length h.length_eq hone

theorem Alike.member (h : Alike v v') :
    Alike (.object (before ++ (key, v) :: after)) (.object (before ++ (key, v') :: after)) := by
  match before, after with
  | [], [] => exact h.object_single
  | [], _ :: _ | _ :: _, _ => exact .object_of_length (by simp) (by simp)

/-- No reader of a list tells the values apart, also of one that stands where a field may. -/
structure ListAlike (v v' : Json) : Prop extends Alike v v' where
  list : decodeList v = decodeList v'
  argument : readArgument v = readArgument v'

/-- The readers of a place get the same from both values. -/
def Agree : Role → Json → Json → Prop
  | .list, v, v' => ListAlike v v'
  | .sequence, v, v' => ∀ r rest, readSequences r (v :: rest) = readSequences r (v' :: rest)
  | .token, v, v' => ∀ r, readToken r v = readToken r v'
  | .field, v, v' => Alike v v'

theorem Agree.refl (role : Role) (v : Json) : Agree role v v := by
  cases role with
  | list => exact ⟨Alike.refl v, rfl, rfl⟩
  | sequence => exact fun _ _ => rfl
  | token => exact fun _ => rfl
  | field => exact Alike.refl v

/-- Both are absent, or both are there and agree. -/
abbrev AgreeAt (role : Role) : Option Json → Option Json → Prop :=
  Option.Rel (Agree role)

theorem AgreeAt.refl (role : Role) (v? : Option Json) : AgreeAt role v? v? := by
  cases v? with
  | none => exact .none
  | some v => exact .some (Agree.refl role v)

section Token

theorem readPresent_congr {read : Json → Except Refusal α} (h : AgreeAt role v? v'?)
    (hread : ∀ v v', Agree role v v' → read v = read v') :
    readPresent read v? = readPresent read v'? := by
  cases h with
  | none => rfl
  | some h => rw [readPresent, readPresent, hread _ _ h]

theorem readArgument_congr (h : AgreeAt .list v? v'?) :
    v?.elim (.ok .absent) readArgument = v'?.elim (.ok .absent) readArgument := by
  cases h with
  | none => rfl
  | some h => exact h.argument

variable {fields fields' : List (String × Json)}

theorem readFieldKind_congr (h : AgreeAt .field (fields.lookup "type") (fields'.lookup "type")) :
    readFieldKind fields r = readFieldKind fields' r := by
  unfold readFieldKind
  generalize fields.lookup "type" = tag, fields'.lookup "type" = tag' at h
  cases h with
  | none => rfl
  | some h => exact h.kind r

/-- A token is read from its tag and from the fields of its kind. -/
theorem readToken_congr (htag : AgreeAt .field (fields.lookup "type") (fields'.lookup "type"))
    (h : ∀ k, Required (DenotesKind r) (fields.lookup "type") k → ∀ key ∈ k.fields,
      AgreeAt (Role.token.member key) (fields.lookup key) (fields'.lookup key)) :
    readToken r (.object fields) = readToken r (.object fields') := by
  rw [readToken, readToken, ← readFieldKind_congr htag]
  cases hk : readFieldKind fields r with
  | error e => rfl
  | ok k =>
    have hfields := h k (readFieldKind_eq_ok.mp hk)
    have hname (hkey : "name" ∈ k.fields) : readNameField fields = readNameField fields' :=
      readPresent_congr (hfields _ hkey) fun _ _ ha => ha.string
    have hns (hkey : "namespace" ∈ k.fields) :
        readNamespaceField fields = readNamespaceField fields' := by
      have hfield := readPresent_congr (hfields _ hkey) fun _ _ ha => ha.ns
      simp only [readNamespaceField, readField, hfield]
    cases k with
    | combinator c => rfl
    | universal =>
      simp only [ok_bind, hns (by decide)]
    | tag =>
      simp only [ok_bind, readTagFields, hname (by decide), hns (by decide)]
    | pseudoElement =>
      simp only [ok_bind, hname (by decide)]
    | pseudo =>
      have hdata : readArgumentField fields = readArgumentField fields' := by
        rw [readArgumentField_eq, readArgumentField_eq]
        exact readArgument_congr (hfields "data" (by decide))
      simp only [ok_bind, hdata, hname (by decide)]
    | _ =>
      have haction := readPresent_congr (hfields "action" (by decide)) fun _ _ ha => ha.action
      have hvalue := readPresent_congr (hfields "value" (by decide)) fun _ _ ha => ha.string
      have hcase := readPresent_congr (hfields "ignoreCase" (by decide)) fun _ _ ha => ha.caseMode
      simp only [ok_bind, readAttributeFields, readField, haction, hvalue, hcase,
        hname (by decide), hns (by decide)]

theorem readToken_of_lookup
    (h : ∀ key, AgreeAt (Role.token.member key) (fields.lookup key) (fields'.lookup key)) :
    readToken r (.object fields) = readToken r (.object fields') :=
  readToken_congr (h "type") fun _ _ key _ => h key

variable {items items' : List Json}

/-- Items of equal number are counted alike, and read one by one. -/
theorem readToken_array_congr (hlength : items.length = items'.length)
    (h : ∀ i, AgreeAt (Role.token.item (i + 1)) items[i]? items'[i]?) :
    readToken r (.array (tag :: items)) = readToken r (.array (tag :: items')) := by
  have h₀ : AgreeAt .field items[0]? items'[0]? := h 0
  have h₁ : AgreeAt .list items[1]? items'[1]? := h 1
  have h₂ : AgreeAt .field items[2]? items'[2]? := h 2
  have h₃ : AgreeAt .field items[3]? items'[3]? := h 3
  have h₄ : AgreeAt .field items[4]? items'[4]? := h 4
  have hname := readPresent_congr h₀ fun _ _ ha => ha.string
  -- Where the kind has no data, the third item is a namespace or an action and is only a field.
  rw [readToken, readToken]
  cases hk : readKind r tag with
  | error e => rfl
  | ok k =>
    cases k with
    | combinator c => simp only [ok_bind, complete, hlength]
    | universal =>
      have hns := readPresent_congr h₀ fun _ _ ha => ha.ns
      simp only [ok_bind, readNamespaceItem, readItem, hns, complete, hlength]
    | tag =>
      have hns := readPresent_congr h₁ fun _ _ ha => ha.ns
      simp only [ok_bind, readTagItems, readRequiredItem, readNamespaceItem, readItem, hname, hns,
        complete, hlength]
    | pseudoElement => simp only [ok_bind, readRequiredItem, readItem, hname, complete, hlength]
    | pseudo =>
      simp only [ok_bind, readRequiredItem, readItem, hname, readArgumentItem_eq,
        readArgument_congr h₁, complete, hlength]
    | _ =>
      have haction := readPresent_congr h₁ fun _ _ ha => ha.action
      have hvalue := readPresent_congr h₂ fun _ _ ha => ha.string
      have hns := readPresent_congr h₃ fun _ _ ha => ha.ns
      have hcase := readPresent_congr h₄ fun _ _ ha => ha.caseMode
      simp only [ok_bind, readAttributeItems, readRequiredItem, readNamespaceItem, readItem, hname,
        haction, hvalue, hns, hcase, complete, hlength]

end Token

theorem readSequence_congr (h : ∀ r, readToken r v = readToken r v') (before after : List Json) :
    readSequence r (before ++ v :: after) = readSequence r (before ++ v' :: after) := by
  induction before with
  | nil => rw [List.nil_append, List.nil_append, readSequence, readSequence, h]
  | cons w before ih => simp only [List.cons_append, readSequence, ih]

theorem readSequences_congr
    (h : ∀ r rest, readSequences r (v :: rest) = readSequences r (v' :: rest))
    (before after : List Json) :
    readSequences r (before ++ v :: after) = readSequences r (before ++ v' :: after) := by
  induction before with
  | nil => exact h r after
  | cons w before ih =>
    rw [List.cons_append, List.cons_append]
    cases w with
    | array s => rw [readSequences, readSequences, ih]
    | _ => rfl

/-- Only as a token is an object read on. -/
theorem Agree.object (h : Alike (.object fields) (.object fields'))
    (htoken : role = .token → ∀ r, readToken r (.object fields) = readToken r (.object fields')) :
    Agree role (.object fields) (.object fields') := by
  cases role with
  | list => exact ⟨h, rfl, rfl⟩
  | sequence => exact fun _ _ => rfl
  | token => exact htoken rfl
  | field => exact h

/-- Two arrays that differ in one item are related item by item, if every value is to itself. -/
theorem rel_item {A : Role → Json → Json → Prop} {before after : List Json}
    (hrefl : ∀ role v?, Option.Rel (A role) v? v?) (role : Nat → Role)
    (h : A (role before.length) v v') (i : Nat) :
    Option.Rel (A (role i)) (before ++ v :: after)[i]? (before ++ v' :: after)[i]? := by
  induction before generalizing role i with
  | nil =>
    cases i with
    | zero => exact .some h
    | succ i => exact hrefl _ _
  | cons w before ih =>
    cases i with
    | zero => exact hrefl _ _
    | succ i => exact ih (fun n => role (n + 1)) h i

theorem Agree.item {before after : List Json} (h : Agree (role.item before.length) v v') :
    Agree role (.array (before ++ v :: after)) (.array (before ++ v' :: after)) := by
  cases role with
  | list =>
    have hlist (r : Leniency) :
        readSequences r (before ++ v :: after) = readSequences r (before ++ v' :: after) :=
      readSequences_congr h before after
    have hdata : readArgument (.array (before ++ v :: after)) =
        readArgument (.array (before ++ v' :: after)) := by
      rw [readArgument, readArgument, hlist]
    exact ⟨Alike.array _ _, hlist .strict, hdata⟩
  | sequence =>
    intro r rest
    rw [readSequences, readSequences, readSequence_congr h before after]
  | token =>
    intro r
    cases before with
    | nil =>
      have htag : Alike v v' := h
      rw [List.nil_append, List.nil_append, readToken, readToken, htag.kind r]
    | cons tag before =>
      have hlength : (before ++ v :: after).length = (before ++ v' :: after).length := by
        rw [List.length_append, List.length_append, List.length_cons, List.length_cons]
      exact readToken_array_congr hlength
        (rel_item AgreeAt.refl (fun i => Role.token.item (i + 1)) h)
  | field => exact Alike.array _ _

end Selectors
