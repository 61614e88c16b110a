import Selectors.Proofs.Decoding

namespace Selectors

set_option autoImplicit true

namespace Json

/-- The name of a kind in place of its index. -/
def nameTag : Json → Json
  | .integer (.ofNat i) =>
    match Kind.all[i]? with
    | some k => .string k.name
    | none => .integer i
  | v => v

/-- The token with its own tag named. What is inside of its data stays as it is. -/
def nameTokenTag : Json → Json
  | .object fields =>
    .object (fields.map fun field =>
      (field.1, if field.1 = "type" then field.2.nameTag else field.2))
  | .array (tag :: items) => .array (tag.nameTag :: items)
  | v => v

def mapItems (f : Json → Json) : Json → Json
  | .array items => .array (items.map f)
  | v => v

/-- The list with the tags of its own tokens named. -/
def nameTags : Json → Json :=
  mapItems (mapItems nameTokenTag)

end Json

def pseudoObject (name : String) (data : Json) : Json :=
  .object [("type", .string "pseudo"), ("name", .string name), ("data", data)]

theorem Kind.name_inj {j k : Kind} (h : j.name = k.name) : j = k := by
  have hk := Kind.ofName?_name k
  rw [← h, Kind.ofName?_name] at hk
  exact Option.some.inj hk

theorem denotesKind_nameTag : DenotesKind .strict v.nameTag k ↔ DenotesKind .lenient v k := by
  constructor
  · intro h
    unfold Json.nameTag at h
    split at h
    · split at h
      · rename_i i _ j hj
        generalize hw : Json.string j.name = w at h
        obtain ⟨-, k⟩ := h
        obtain rfl := Kind.name_inj (Json.string.inj hw)
        exact .index i hj
      · cases h
    · cases h
      exact .name .lenient k
  · intro h
    cases h with
    | name => exact .name .strict k
    | index i hi =>
      have hname : (Json.integer i).nameTag = .string k.name := by
        simp only [Json.nameTag, hi]
      rw [hname]
      exact .name .strict k

theorem lookup_map_snd {f : String → Json → Json} {fields : List (String × Json)} :
    (fields.map fun field => (field.1, f field.1 field.2)).lookup key =
      (fields.lookup key).map (f key) := by
  induction fields with
  | nil => rfl
  | cons field fields ih =>
    rw [List.map_cons, List.lookup_cons, List.lookup_cons]
    by_cases hkey : key = field.1
    · simp [hkey]
    · rw [beq_false_of_ne hkey, ih]

/-- No kind has a field by the name of the tag. -/
theorem DenotesFields.congr (hd : DenotesFields k field t)
    (h : ∀ key, key ≠ "type" → field key = field' key) : DenotesFields k field' t := by
  have hname := h "name" (by decide)
  have hns := h "namespace" (by decide)
  cases hd with
  | combinator c => exact .combinator c
  | universal ns => exact .universal (hns ▸ ns)
  | tag name ns => exact .tag (hname ▸ name) (hns ▸ ns)
  | pseudoElement name => exact .pseudoElement (hname ▸ name)
  | pseudo name data => exact .pseudo (hname ▸ name) (h "data" (by decide) ▸ data)
  | _ a =>
    refine .attribute ⟨hname ▸ a.name, ?_, ?_, hns ▸ a.ns, ?_⟩
    · exact h "action" (by decide) ▸ a.action
    · exact h "value" (by decide) ▸ a.value
    · exact h "ignoreCase" (by decide) ▸ a.caseMode

theorem lookup_nameTag (fields : List (String × Json)) (key : String) :
    (fields.map fun field =>
        (field.1, if field.1 = "type" then field.2.nameTag else field.2)).lookup key =
      (fields.lookup key).map fun v => if key = "type" then v.nameTag else v :=
  lookup_map_snd (f := fun key v => if key = "type" then v.nameTag else v)

theorem denotesToken_nameTokenTag :
    DenotesToken .strict v.nameTokenTag t ↔ DenotesToken .lenient v t := by
  cases v with
  | object fields =>
    rw [Json.nameTokenTag, denotes_object, denotes_object]
    refine exists_congr fun k => and_congr ?_ ?_
    · rw [lookup_nameTag]
      cases fields.lookup "type" with
      | none => exact ⟨nofun, nofun⟩
      | some tag =>
        constructor
        · rintro ⟨h⟩
          exact .present (denotesKind_nameTag.mp h)
        · rintro ⟨h⟩
          exact .present (denotesKind_nameTag.mpr h)
    · have hsame (key : String) (hkey : key ≠ "type") :
          (fields.lookup key).map (fun v => if key = "type" then v.nameTag else v) =
            fields.lookup key := by
        simp [hkey]
      simp only [lookup_nameTag]
      exact ⟨fun h => h.congr hsame, fun h => h.congr fun key hkey => (hsame key hkey).symm⟩
  | array items =>
    cases items with
    | nil => exact ⟨nofun, nofun⟩
    | cons tag items =>
      rw [Json.nameTokenTag, denotes_array, denotes_array]
      exact exists_congr fun k => and_congr_left' denotesKind_nameTag
  | _ => exact ⟨nofun, nofun⟩

theorem DenotesArray.mono {R Q : Json → α → Prop} (h : DenotesArray R v xs)
    (hRQ : ∀ w x, R w x → Q w x) : DenotesArray Q v xs := by
  obtain ⟨h⟩ := h
  exact .items (h.imp hRQ)

theorem DenotesArray.congr {R Q : Json → α → Prop} (h : ∀ w x, R w x ↔ Q w x) :
    DenotesArray R v xs ↔ DenotesArray Q v xs :=
  ⟨fun ha => ha.mono fun w x => (h w x).mp, fun ha => ha.mono fun w x => (h w x).mpr⟩

theorem denotesArray_mapItems {R : Json → α → Prop} :
    DenotesArray R (v.mapItems f) xs ↔ DenotesArray (fun w => R (f w)) v xs := by
  cases v with
  | array items =>
    rw [Json.mapItems, denotes_items, denotes_items, List.forall₂_map_left_iff]
  | _ => exact ⟨nofun, nofun⟩

theorem denotesList_nameTags :
    DenotesList .strict v.nameTags list ↔ DenotesList .lenient v list := by
  refine denotesArray_mapItems.trans (DenotesArray.congr fun _ _ => ?_)
  exact denotesArray_mapItems.trans (DenotesArray.congr fun _ _ => denotesToken_nameTokenTag)

theorem DenotesKind.lenient (h : DenotesKind r v k) : DenotesKind .lenient v k := by
  cases h with
  | name => exact .name .lenient k
  | index i hi => exact .index i hi

theorem Required.imp {R Q : Json → α → Prop} (h : Required R v? x) (hRQ : ∀ v, R v x → Q v x) :
    Required Q v? x := by
  obtain ⟨h⟩ := h
  exact .present (hRQ _ h)

theorem DenotesToken.lenient (h : DenotesToken r v t) : DenotesToken .lenient v t := by
  cases h with
  | object htag h => exact .object (htag.imp fun _ hk => hk.lenient) h
  | array htag hlength h => exact .array htag.lenient hlength h

theorem DenotesList.lenient (h : DenotesList r v list) : DenotesList .lenient v list :=
  h.mono fun _ _ hs => hs.mono fun _ _ ht => ht.lenient

theorem denotes_pseudoObject :
    DenotesToken r (pseudoObject name data) (.pseudo name p) ↔ DenotesArgument data p := by
  rw [pseudoObject, denotes_object]
  constructor
  · rintro ⟨k, -, h⟩
    cases h with
    | pseudo hname hdata => exact defaulted_some.mp hdata
  · intro h
    exact ⟨.pseudo, .present (.name r .pseudo), .pseudo (.present (.string name)) (.present h)⟩

theorem decodeToken_selectors :
    decodeToken (pseudoObject name v) = .ok (.pseudo name (.selectors list)) ↔
      DenotesList .lenient v list := by
  rw [decodeToken, readToken_eq_ok, denotes_pseudoObject]
  constructor
  · intro h
    cases h with
    | array h => exact h
  · exact .array

theorem decodeList_array :
    decodeList (.array items) = .ok list ↔ DenotesList .strict (.array items) list :=
  (readSequences_eq_ok items list).trans denotes_items.symm

/-- The data of a pseudo-class is read like a list whose own tags are named first, and so it is
read like a list wherever there is nothing to name. -/
theorem decodeToken_selectors_iff (name : String) (v : Json) (list : SelectorList) :
    (decodeToken (pseudoObject name v) = .ok (.pseudo name (.selectors list)) ↔
      decodeList v.nameTags = .ok list) ∧
    (decodeList v = .ok list →
      decodeToken (pseudoObject name v) = .ok (.pseudo name (.selectors list))) := by
  rw [decodeToken_selectors]
  cases v with
  | array items =>
    constructor
    · exact denotesList_nameTags.symm.trans decodeList_array.symm
    · intro h
      exact (decodeList_array.mp h).lenient
  | _ => exact ⟨⟨nofun, nofun⟩, nofun⟩

/-- `:is(> a, :not(*))` with indices for tags: those of the inner data are not named, and a list
of names alone needs none to be. -/
theorem decodeToken_selectors_is :
    decodeToken (pseudoObject "is" (.array [.array [.array [.integer 0],
        .object [("name", .string "a"), ("type", .integer 7)]],
      .array [.array [.integer 9, .string "not", .array [.array [.array [.integer 6]]]]]])) =
      .ok (.pseudo "is" (.selectors [[.combinator .child, .tag "a" none],
        [.pseudo "not" (.selectors [[.universal none]])]])) ∧
    decodeToken (pseudoObject "is" (.array [.array [.array [.string "child"]]])) =
      .ok (.pseudo "is" (.selectors [[.combinator .child]])) :=
  ⟨(decodeToken_selectors_iff _ _ _).1.mpr rfl, (decodeToken_selectors_iff _ _ _).2 rfl⟩

end Selectors
