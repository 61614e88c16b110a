import Mathlib.Logic.Relation
import Selectors.Proofs.Alike
import Selectors.Proofs.Leniency

namespace Selectors

set_option autoImplicit true

/-- One edit at any depth: the fields of an object with distinct keys in another order, or one
more field of a token, under a key that its kind does not know. -/
inductive Edit : Role → Json → Json → Prop
  | permute (hkeys : (fields.map Prod.fst).Nodup) (h : fields.Perm fields') :
      Edit role (.object fields) (.object fields')
  | add (before after : List (String × Json)) (v : Json)
      (htag : Required (DenotesKind .lenient) ((before ++ after).lookup "type") k)
      (hkey : key ∉ "type" :: k.fields) :
      Edit .token (.object (before ++ after)) (.object (before ++ (key, v) :: after))
  | item (before after : List Json) (h : Edit (role.item before.length) v v') :
      Edit role (.array (before ++ v :: after)) (.array (before ++ v' :: after))
  | member (before after : List (String × Json)) (h : Edit (role.member key) v v') :
      Edit role (.object (before ++ (key, v) :: after)) (.object (before ++ (key, v') :: after))

/-- A list after any number of edits, done or undone. -/
def Edited : Json → Json → Prop :=
  Relation.EqvGen (Edit .list)

section Lookup

variable {fields fields' before after : List (String × Json)}

theorem lookup_add (h : key ≠ other) :
    (before ++ (other, v) :: after).lookup key = (before ++ after).lookup key := by
  rw [List.lookup_append, List.lookup_append, List.lookup_cons, beq_false_of_ne h]

/-- Two objects that differ in one field are related field by field, if every value is to
itself. -/
theorem rel_member {A : Role → Json → Json → Prop} {role : Role}
    (hrefl : ∀ role v?, Option.Rel (A role) v? v?) (h : A (role.member other) v v') :
    Option.Rel (A (role.member key)) ((before ++ (other, v) :: after).lookup key)
      ((before ++ (other, v') :: after).lookup key) := by
  by_cases hkey : key = other
  · subst hkey
    rw [List.lookup_append, List.lookup_append, List.lookup_cons_self, List.lookup_cons_self]
    cases before.lookup key with
    | none => exact .some h
    | some w => exact hrefl _ _
  · rw [lookup_add hkey, lookup_add hkey]
    exact hrefl _ _

/-- With distinct keys a field is found wherever it stands. -/
theorem lookup_permute (hkeys : (fields.map Prod.fst).Nodup) (h : fields.Perm fields') :
    fields.lookup key = fields'.lookup key := by
  induction h with
  | nil => rfl
  | cons field h ih => rw [List.lookup_cons, List.lookup_cons, ih (List.nodup_cons.mp hkeys).2]
  | swap a b fields =>
    obtain ⟨i, v⟩ := a
    obtain ⟨j, w⟩ := b
    have hne : j ≠ i := by
      intro hkey
      simp [hkey] at hkeys
    simp only [List.lookup_cons]
    by_cases hj : key = j
    · rw [hj, beq_self_eq_true, beq_false_of_ne hne]
    · rw [beq_false_of_ne hj]
  | trans h h' ih ih' => exact (ih hkeys).trans (ih' ((h.map Prod.fst).nodup hkeys))

end Lookup

theorem Agree.alike_of_member {role : Role} (h : Agree (role.member key) v v') : Alike v v' := by
  rcases role.member_cases key with hrole | hrole
  · rw [hrole] at h
    exact h.toAlike
  · rw [hrole] at h
    exact h

theorem DenotesKind.unique (h : DenotesKind r v k) (h' : DenotesKind r v k') : k = k' := by
  have hread := readKind_eq_ok.mpr h
  rw [readKind_eq_ok.mpr h'] at hread
  exact (Except.ok.inj hread).symm

theorem Required.unique (h : Required R v? x) (h' : Required R v? y)
    (hR : ∀ v, R v x → R v y → x = y) : x = y := by
  obtain ⟨h⟩ := h
  obtain ⟨h'⟩ := h'
  exact hR _ h h'

/-- One edit is seen by no reader of its place. -/
theorem Edit.agree (h : Edit role v v') : Agree role v v' := by
  induction h with
  | permute hkeys h =>
    apply Agree.object (.permute h)
    intro hrole r
    apply readToken_of_lookup
    intro key
    rw [lookup_permute hkeys h]
    exact .refl _ _
  | @add k key before after v htag hkey =>
    rw [List.mem_cons, not_or] at hkey
    intro r
    apply readToken_congr
    · rw [lookup_add (Ne.symm hkey.1)]
      exact .refl _ _
    · intro k' hk' other hother
      -- A strict reader finds the same kind or none.
      have hkind : k' = k :=
        (hk'.imp fun _ hd => hd.lenient).unique htag fun _ => DenotesKind.unique
      have hne : other ≠ key := by
        intro he
        rw [he, hkind] at hother
        exact hkey.2 hother
      rw [lookup_add hne]
      exact .refl _ _
  | item before after h ih => exact .item ih
  | member before after h ih =>
    apply Agree.object (.member ih.alike_of_member)
    intro hrole r
    subst hrole
    exact readToken_of_lookup fun key => rel_member AgreeAt.refl ih

/-- A decoder gets the same from a list after edits, be it a list or a refusal. -/
theorem decodeList_of_edited (h : Edited v v') : decodeList v' = decodeList v := by
  induction h with
  | rel v v' h =>
    have hlist : ListAlike v v' := h.agree
    exact hlist.list.symm
  | refl v => rfl
  | symm v v' h ih => exact ih.symm
  | trans v v' v'' h h' ih ih' => exact ih'.trans ih

/-- `:is(a)` after its `a` got a field that only an attribute knows, and with the fields of the
pseudo-class turned around. -/
theorem decodeList_of_edited_is : decodeList (.array [.array [.object [
    ("data", .array [.array [.object [("type", .integer 7), ("name", .string "a"),
      ("value", .null)]]]),
    ("name", .string "is"), ("type", .string "pseudo")]]]) =
      .ok [[.pseudo "is" (.selectors [[.tag "a" none]])]] := by
  have hkind : Required (DenotesKind .lenient)
      (List.lookup "type" [("type", .integer 7), ("name", .string "a")]) .tag :=
    .present (.index 7 rfl)
  have hdata : Edit .list
      (.array [.array [.object [("type", .integer 7), ("name", .string "a")]]])
      (.array [.array [.object [("type", .integer 7), ("name", .string "a"), ("value", .null)]]]) :=
    .item [] [] (.item [] [] (.add [_, _] [] .null hkind (by decide)))
  have hadd : Edit .list (.array [.array [pseudoObject "is" _]])
      (.array [.array [pseudoObject "is" _]]) :=
    .item [] [] (.item [] [] (.member [_, _] [] hdata))
  have hturn (data : Json) : Edit .list (.array [.array [pseudoObject "is" data]])
      (.array [.array [.object
        [("data", data), ("name", .string "is"), ("type", .string "pseudo")]]]) :=
    .item [] [] (.item [] [] (.permute (by simp) (List.reverse_perm _).symm))
  have hedited := Relation.EqvGen.trans _ _ _ (.rel _ _ hadd) (.rel _ _ (hturn _))
  exact (decodeList_of_edited hedited).trans rfl

end Selectors
