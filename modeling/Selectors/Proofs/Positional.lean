import Selectors.Proofs.Edited
import Selectors.Proofs.RoundTrip

namespace Selectors

set_option autoImplicit true

/-- The fields of an object that holds by name what an array holds by position. -/
def keyedFields (k : Kind) (tag : Json) (items : List Json) : List (String × Json) :=
  ("type", tag) :: k.fields.zip items

/-- One token goes from an object to the array of its kind and its first fields, at any depth. -/
inductive Unkeys : Role → Json → Json → Prop
  | token (htag : DenotesKind .lenient tag k) (hlength : items.length ≤ k.fields.length)
      (h : fields.Perm (keyedFields k tag items)) :
      Unkeys .token (.object fields) (.array (tag :: items))
  | item (before after : List Json) (h : Unkeys (role.item before.length) v v') :
      Unkeys role (.array (before ++ v :: after)) (.array (before ++ v' :: after))
  | member (before after : List (String × Json)) (h : Unkeys (role.member key) v v') :
      Unkeys role (.object (before ++ (key, v) :: after)) (.object (before ++ (key, v') :: after))

/-- A list after any number of its tokens went from one form to the other. -/
def Reshaped : Json → Json → Prop :=
  Relation.EqvGen (Unkeys .list)

theorem zip_keys_sublist (keys : List String) (items : List Json) :
    ((keys.zip items).map Prod.fst).Sublist keys := by
  induction keys generalizing items with
  | nil => exact .slnil
  | cons key keys ih =>
    cases items with
    | nil => exact List.nil_sublist _
    | cons v items => exact (ih items).cons_cons key

theorem lookup_zip {keys : List String} {items : List Json} (h : items.length ≤ keys.length)
    (key : String) : (keys.zip items).lookup key = items[keys.idxOf key]? := by
  induction keys generalizing items with
  | nil =>
    rw [List.eq_nil_of_length_eq_zero (Nat.le_zero.mp h)]
    rfl
  | cons other keys ih =>
    cases items with
    | nil => rfl
    | cons v items =>
      rw [List.zip_cons_cons, List.lookup_cons]
      by_cases hkey : key = other
      · rw [hkey, beq_self_eq_true, List.idxOf_cons_self]
        rfl
      · rw [beq_false_of_ne hkey, List.idxOf_cons_ne _ (Ne.symm hkey), List.getElem?_cons_succ]
        exact ih (Nat.le_of_succ_le_succ h)

theorem keyedFields_nodup (k : Kind) (tag : Json) (items : List Json) :
    ((keyedFields k tag items).map Prod.fst).Nodup :=
  k.keys_nodup.sublist ((zip_keys_sublist k.fields items).cons_cons "type")

/-- Both forms denote the same: what is looked up by name in one stands at the position of the
name in the other. Where a required field is left out, neither denotes a token. -/
theorem denotes_keyed (htag : DenotesKind .lenient tag k) (hlength : items.length ≤ k.fields.length)
    (h : fields.Perm (keyedFields k tag items)) :
    DenotesToken r (.object fields) t ↔ DenotesToken r (.array (tag :: items)) t := by
  have hlookup (key : String) : fields.lookup key = (keyedFields k tag items).lookup key :=
    (lookup_permute (keyedFields_nodup k tag items) h.symm).symm
  have htype : fields.lookup "type" = some tag := by
    rw [hlookup, keyedFields, List.lookup_cons_self]
  have hfield (key : String) (hkey : key ≠ "type") :
      fields.lookup key = items[k.fields.idxOf key]? := by
    rw [hlookup, keyedFields, List.lookup_cons, beq_false_of_ne hkey]
    exact lookup_zip hlength key
  rw [denotes_object, denotes_array, htype]
  constructor
  · rintro ⟨k', ⟨hk⟩, hd⟩
    obtain rfl := hk.lenient.unique htag
    exact ⟨k', hk, hlength, hd.congr hfield⟩
  · rintro ⟨k', hk, -, hd⟩
    obtain rfl := hk.lenient.unique htag
    exact ⟨k', .present hk, hd.congr fun key hkey => (hfield key hkey).symm⟩

/-- A place gets the same from both values, if it gets anything. Refusals may differ. -/
def Synonymous : Role → Json → Json → Prop
  | .list, v, v' => Alike v v' ∧ ∀ r list, DenotesList r v list ↔ DenotesList r v' list
  | .sequence, v, v' =>
    ∀ r s, DenotesArray (DenotesToken r) v s ↔ DenotesArray (DenotesToken r) v' s
  | .token, v, v' => ∀ r t, DenotesToken r v t ↔ DenotesToken r v' t
  | .field, v, v' => Alike v v'

theorem Synonymous.refl (role : Role) (v? : Option Json) :
    Option.Rel (Synonymous role) v? v? := by
  cases v? with
  | none => exact .none
  | some v =>
    apply Option.Rel.some
    cases role with
    | list => exact ⟨Alike.refl v, fun _ _ => Iff.rfl⟩
    | sequence => exact fun _ _ => Iff.rfl
    | token => exact fun _ _ => Iff.rfl
    | field => exact Alike.refl v

theorem Synonymous.alike {role : Role} (hrole : role = .list ∨ role = .field)
    (h : Synonymous role v v') : Alike v v' := by
  rcases hrole with rfl | rfl
  · exact h.1
  · exact h

section Alike

variable {v v' : Json} (h : Alike v v')
include h

theorem Alike.string_iff (s : String) : DenotesString v s ↔ DenotesString v' s := by
  rw [← readString_eq_ok, h.string, readString_eq_ok]

theorem Alike.namespace_iff (ns : Option String) :
    DenotesNamespace v ns ↔ DenotesNamespace v' ns := by
  rw [← readOption_eq_ok, h.ns, readOption_eq_ok]

theorem Alike.action_iff (a : Action) : DenotesAction v a ↔ DenotesAction v' a := by
  rw [← readAction_eq_ok, h.action, readAction_eq_ok]

theorem Alike.caseMode_iff (m : CaseMode) : DenotesCaseMode v m ↔ DenotesCaseMode v' m := by
  rw [← readCaseMode_eq_ok, h.caseMode, readCaseMode_eq_ok]

theorem Alike.kind_iff (k : Kind) : DenotesKind r v k ↔ DenotesKind r v' k := by
  rw [← readKind_eq_ok, h.kind, readKind_eq_ok]

end Alike

theorem denotesArgument_iff : DenotesArgument v p ↔
    match p with
    | .absent => DenotesNamespace v none
    | .text s => DenotesNamespace v (some s)
    | .selectors list => DenotesList .lenient v list := by
  constructor
  · intro h
    cases h with
    | null => exact .null
    | string s => exact .string s
    | array h => exact h
  · intro h
    cases p with
    | absent =>
      cases h
      exact .null
    | text s =>
      cases h
      exact .string s
    | selectors list => exact .array h

theorem Synonymous.argument_iff (h : Synonymous .list v v') (p : Argument) :
    DenotesArgument v p ↔ DenotesArgument v' p := by
  rw [denotesArgument_iff, denotesArgument_iff]
  cases p with
  | absent => exact h.1.namespace_iff none
  | text s => exact h.1.namespace_iff (some s)
  | selectors list => exact h.2 .lenient list

theorem required_congr {A : Json → Json → Prop} (h : Option.Rel A v? v'?)
    (hR : ∀ v v', A v v' → (R v x ↔ R v' x)) : Required R v? x ↔ Required R v'? x := by
  cases h with
  | none => rfl
  | some h =>
    constructor
    · rintro ⟨hx⟩
      exact .present ((hR _ _ h).mp hx)
    · rintro ⟨hx⟩
      exact .present ((hR _ _ h).mpr hx)

theorem defaulted_congr {A : Json → Json → Prop} (h : Option.Rel A v? v'?)
    (hR : ∀ v v', A v v' → (R v x ↔ R v' x)) : Defaulted R d v? x ↔ Defaulted R d v'? x := by
  cases h with
  | none => rfl
  | some h =>
    rw [defaulted_some, defaulted_some]
    exact hR _ _ h

/-- The data of a pseudo-class is the only field that is read as a list. -/
theorem denotesFields_congr {field other : String → Option Json}
    (h : ∀ key ∈ k.fields, Option.Rel Alike (field key) (other key))
    (hdata : k = .pseudo → Option.Rel (Synonymous .list) (field "data") (other "data")) :
    DenotesFields k field t ↔ DenotesFields k other t := by
  have hname (hkey : "name" ∈ k.fields) (s : String) :
      Required DenotesString (field "name") s ↔ Required DenotesString (other "name") s :=
    required_congr (h _ hkey) fun _ _ ha => ha.string_iff s
  have hns (hkey : "namespace" ∈ k.fields) (ns : Option String) :
      Defaulted DenotesNamespace none (field "namespace") ns ↔
        Defaulted DenotesNamespace none (other "namespace") ns :=
    defaulted_congr (h _ hkey) fun _ _ ha => ha.namespace_iff ns
  cases k with
  | combinator c => rw [denotes_combinator, denotes_combinator]
  | universal =>
    rw [denotes_universal, denotes_universal]
    simp only [hns (by decide)]
  | tag =>
    rw [denotes_tag, denotes_tag]
    simp only [hname (by decide), hns (by decide)]
  | pseudoElement =>
    rw [denotes_pseudoElement, denotes_pseudoElement]
    simp only [hname (by decide)]
  | pseudo =>
    have hargument (p : Argument) : Defaulted DenotesArgument .absent (field "data") p ↔
        Defaulted DenotesArgument .absent (other "data") p :=
      defaulted_congr (hdata rfl) fun _ _ ha => ha.argument_iff p
    rw [denotes_pseudo, denotes_pseudo]
    simp only [hname (by decide), hargument]
  | _ =>
    have haction (a : Action) :=
      required_congr (h "action" (by decide)) fun _ _ ha => ha.action_iff a
    have hvalue (s : String) :=
      defaulted_congr (d := "") (h "value" (by decide)) fun _ _ ha => ha.string_iff s
    have hcase (m : CaseMode) :=
      defaulted_congr (d := .unflagged) (h "ignoreCase" (by decide)) fun _ _ ha => ha.caseMode_iff m
    have hattribute (a : Attribute) : DenotesAttribute field a ↔ DenotesAttribute other a := by
      constructor
      · rintro ⟨name, action, value, ns, caseMode⟩
        exact ⟨(hname (by decide) _).mp name, (haction _).mp action, (hvalue _).mp value,
          (hns (by decide) _).mp ns, (hcase _).mp caseMode⟩
      · rintro ⟨name, action, value, ns, caseMode⟩
        exact ⟨(hname (by decide) _).mpr name, (haction _).mpr action, (hvalue _).mpr value,
          (hns (by decide) _).mpr ns, (hcase _).mpr caseMode⟩
    rw [denotes_attribute, denotes_attribute]
    simp only [hattribute]

theorem rel_alike {role : Role} (hrole : role = .list ∨ role = .field)
    (h : Option.Rel (Synonymous role) v? v'?) : Option.Rel Alike v? v'? := by
  cases h with
  | none => exact .none
  | some h => exact .some (h.alike hrole)

theorem denotesToken_object_congr {fields fields' : List (String × Json)}
    (h : ∀ key, Option.Rel (Synonymous (Role.token.member key)) (fields.lookup key)
      (fields'.lookup key)) :
    DenotesToken r (.object fields) t ↔ DenotesToken r (.object fields') t := by
  have halike (key : String) : Option.Rel Alike (fields.lookup key) (fields'.lookup key) :=
    rel_alike (Role.token.member_cases key) (h key)
  rw [denotes_object, denotes_object]
  apply exists_congr
  intro k
  apply and_congr
  · exact required_congr (halike "type") fun _ _ ha => ha.kind_iff k
  · exact denotesFields_congr (fun key _ => halike key) fun _ => h "data"

theorem denotesToken_array_congr {items items' : List Json} (htag : Alike tag tag')
    (hlength : items.length = items'.length)
    (h : ∀ i, Option.Rel (Synonymous (Role.token.item (i + 1))) items[i]? items'[i]?) :
    DenotesToken r (.array (tag :: items)) t ↔ DenotesToken r (.array (tag' :: items')) t := by
  rw [denotes_array, denotes_array, hlength]
  apply exists_congr
  intro k
  apply and_congr (htag.kind_iff k)
  apply and_congr_right'
  apply denotesFields_congr
  · intro key _
    exact rel_alike (Role.item_succ_cases _) (h _)
  · intro hk
    subst hk
    exact h 1

theorem denotesArray_middle_congr {R : Json → α → Prop} (h : ∀ x, R v x ↔ R v' x)
    (before after : List Json) :
    DenotesArray R (.array (before ++ v :: after)) xs ↔
      DenotesArray R (.array (before ++ v' :: after)) xs := by
  rw [denotes_items, denotes_items]
  induction before generalizing xs with
  | nil => simp only [List.nil_append, List.forall₂_cons_left_iff, h]
  | cons w before ih => simp only [List.cons_append, List.forall₂_cons_left_iff, ih]

theorem Synonymous.item {before after : List Json} {role : Role}
    (h : Synonymous (role.item before.length) v v') :
    Synonymous role (.array (before ++ v :: after)) (.array (before ++ v' :: after)) := by
  cases role with
  | list => exact ⟨Alike.array _ _, fun r _ => denotesArray_middle_congr (h r) before after⟩
  | sequence => exact fun r _ => denotesArray_middle_congr (h r) before after
  | token =>
    intro r t
    cases before with
    | nil => exact denotesToken_array_congr h rfl fun _ => Synonymous.refl _ _
    | cons tag before =>
      have hlength : (before ++ v :: after).length = (before ++ v' :: after).length := by
        rw [List.length_append, List.length_append, List.length_cons, List.length_cons]
      apply denotesToken_array_congr (Alike.refl tag) hlength
      exact rel_item Synonymous.refl (fun i => Role.token.item (i + 1)) h
  | field => exact Alike.array _ _

/-- Only as a token is an object read on. -/
theorem Synonymous.member {before after : List (String × Json)} {role : Role}
    (h : Synonymous (role.member key) v v') : Synonymous role
      (.object (before ++ (key, v) :: after)) (.object (before ++ (key, v') :: after)) := by
  have halike : Alike (.object (before ++ (key, v) :: after))
      (.object (before ++ (key, v') :: after)) := .member (h.alike (role.member_cases key))
  cases role with
  | list => exact ⟨halike, fun _ _ => ⟨nofun, nofun⟩⟩
  | sequence => exact fun _ _ => ⟨nofun, nofun⟩
  | token => exact fun _ _ => denotesToken_object_congr fun _ => rel_member Synonymous.refl h
  | field => exact halike

/-- One change of form keeps what a place gets. -/
theorem Unkeys.synonymous (h : Unkeys role v v') : Synonymous role v v' := by
  induction h with
  | token htag hlength h => exact fun _ _ => denotes_keyed htag hlength h
  | item before after h ih => exact ih.item
  | member before after h ih => exact ih.member

theorem denotesList_of_reshaped (h : Reshaped v v') :
    DenotesList .strict v list ↔ DenotesList .strict v' list := by
  induction h with
  | rel v v' h =>
    have hlist : Synonymous .list v v' := h.synonymous
    exact hlist.2 .strict list
  | refl v => rfl
  | symm v v' h ih => exact ih.symm
  | trans v v' v'' h h' ih ih' => exact ih.trans ih'

theorem denotes_combinator_array (htag : DenotesKind r tag (.combinator c)) :
    DenotesToken r (.array (tag :: items)) t ↔ items = [] ∧ .combinator c = t := by
  rw [denotes_array]
  constructor
  · rintro ⟨k, hk, hlength, h⟩
    obtain rfl := hk.unique htag
    exact ⟨List.eq_nil_of_length_eq_zero (Nat.le_zero.mp hlength), denotes_combinator.mp h⟩
  · rintro ⟨rfl, rfl⟩
    exact ⟨.combinator c, htag, Nat.le_refl 0, .combinator c⟩

/-- A token may be written with its fields by name or by position, at the top and in the data of
a pseudo-class, and what a list is read as stays the same when its tokens change their form. A
combinator has no fields, and so no other position than that of its kind. -/
theorem positional_iff_keyed :
    (∀ (r : Leniency) (k : Kind) (tag : Json) (items : List Json) (fields : List (String × Json))
        (t : Token), DenotesKind .lenient tag k → items.length ≤ k.fields.length →
        fields.Perm (keyedFields k tag items) →
        (readToken r (.array (tag :: items)) = .ok t ↔ readToken r (.object fields) = .ok t)) ∧
      (∀ v v', Reshaped v v' → ∀ list, decodeList v = .ok list ↔ decodeList v' = .ok list) ∧
      ∀ (r : Leniency) (c : Combinator) (tag : Json) (items : List Json) (t : Token),
        DenotesKind r tag (.combinator c) →
        (readToken r (.array (tag :: items)) = .ok t ↔ items = [] ∧ .combinator c = t) := by
  refine ⟨fun r k tag items fields t htag hlength h => ?_, fun v v' h list => ?_,
    fun r c tag items t htag => ?_⟩
  · rw [readToken_eq_ok, readToken_eq_ok]
    exact (denotes_keyed htag hlength h).symm
  · have hread (w : Json) : decodeList w = .ok list ↔ DenotesList .strict w list := by
      cases w with
      | array items => exact decodeList_array
      | _ => exact ⟨nofun, nofun⟩
    rw [hread, hread]
    exact denotesList_of_reshaped h
  · rw [readToken_eq_ok]
    exact denotes_combinator_array htag

/-- `:is(a)` with both of its tokens turned into arrays, first the one inside; its `a` alone, out
of an object with the tag last; and a combinator with one item too many. -/
theorem positional_iff_keyed_is :
    decodeList (.array [.array [.array [.string "pseudo", .string "is",
        .array [.array [.array [.integer 7, .string "a"]]]]]]) =
      .ok [[.pseudo "is" (.selectors [[.tag "a" none]])]] ∧
    readToken .lenient (.array [.integer 7, .string "a"]) = .ok (.tag "a" none) ∧
    readToken .strict (.array [.string "child", .null]) ≠ .ok (.combinator .child) := by
  have htag (fields : List (String × Json))
      (h : fields.Perm (keyedFields .tag (.integer 7) [.string "a"])) :
      Unkeys .token (.object fields) (.array [.integer 7, .string "a"]) :=
    .token (.index 7 rfl) (by decide) h
  have hinside : Unkeys .list
      (.array [.array [pseudoObject "is" (.array [.array [.object _]])]])
      (.array [.array [pseudoObject "is" (.array [.array [.array _]])]]) :=
    .item [] [] (.item [] [] (.member [_, _] [] (.item [] [] (.item [] [] (htag _ (.refl _))))))
  have hpseudo (data : Json) : Unkeys .list (.array [.array [pseudoObject "is" data]])
      (.array [.array [.array [.string "pseudo", .string "is", data]]]) :=
    .item [] [] (.item [] [] (.token (.name .lenient .pseudo) (Nat.le_refl 2) (.refl _)))
  have hreshaped := Relation.EqvGen.trans _ _ _ (.rel _ _ hinside) (.rel _ _ (hpseudo _))
  refine ⟨(positional_iff_keyed.2.1 _ _ hreshaped _).mp rfl, ?_, fun h => ?_⟩
  · exact (positional_iff_keyed.1 .lenient .tag _ _ [("name", .string "a"), ("type", .integer 7)] _
      (.index 7 rfl) (by decide) (.swap _ _ [])).mpr rfl
  · cases ((positional_iff_keyed.2.2 _ _ _ _ _ (.name .strict (.combinator .child))).mp h).1

end Selectors
