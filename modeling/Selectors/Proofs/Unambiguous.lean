import Selectors.Proofs.Announced
import Selectors.Proofs.Printing

namespace Selectors

set_option autoImplicit true

namespace Plain

variable {S : Set Char} {x y : List Char} {a b : Attribute}

theorem shorthand_append_inj (hS : Plain S) (ha : a.Conforms S) (hb : b.Conforms S)
    (hsa : a.shorthand? = some mark) (hsb : b.shorthand? = some mark') (hx : EndsPart x)
    (hy : EndsPart y) (h : a.render.toList ++ x = b.render.toList ++ y) : a = b ∧ x = y := by
  have hva : Over S a.value := by simpa only [hsa] using ha.2
  have hvb : Over S b.value := by simpa only [hsb] using hb.2
  obtain ⟨hvalue, hab⟩ := Attribute.shorthand_append_cases hsa hsb h
  obtain ⟨hv, hxy⟩ := hS.name_append_inj hva hvb hx.name hy.name hvalue
  exact ⟨hab hv, hxy⟩

theorem bracket_append_inj (hS : Plain S) (ha : a.Conforms S) (hb : b.Conforms S)
    (hsa : a.shorthand? = none) (hsb : b.shorthand? = none)
    (h : a.render.toList ++ x = b.render.toList ++ y) : a.written = b.written ∧ x = y := by
  obtain ⟨hna, hoa, hma⟩ : a.name ≠ "" ∧ Over S a.name ∧ NamespaceOver S a.ns := by
    simpa only [Attribute.Conforms, hsa] using ha
  obtain ⟨hnb, hob, hmb⟩ : b.name ≠ "" ∧ Over S b.name ∧ NamespaceOver S b.ns := by
    simpa only [Attribute.Conforms, hsb] using hb
  rw [Attribute.bracket_append hsa, Attribute.bracket_append hsb] at h
  obtain ⟨hns, hname, hrest⟩ := hS.qualified_append_inj hma hmb (k := some a.name)
    (l := some b.name) ⟨hna, hoa⟩ ⟨hnb, hob⟩ (condition_ends_name a x) (condition_ends_name b y)
    (condition_unbarred a x) (condition_unbarred b y) (List.cons.inj h).2
  obtain ⟨haction, hvalue, hxy⟩ := condition_append_inj hrest
  have hagrees : a.Agrees b := ⟨Option.some.inj hname, hns, haction, hvalue⟩
  exact ⟨hagrees.written_eq, hxy⟩

theorem attribute_append_inj (hS : Plain S) (ha : a.Conforms S) (hb : b.Conforms S)
    (hx : EndsPart x) (hy : EndsPart y) (h : a.render.toList ++ x = b.render.toList ++ y) :
    a.written = b.written ∧ x = y := by
  cases hsa : a.shorthand? with
  | some mark =>
    cases hsb : b.shorthand? with
    | some mark' =>
      obtain ⟨rfl, hxy⟩ := hS.shorthand_append_inj ha hb hsa hsb hx hy h
      exact ⟨rfl, hxy⟩
    | none => exact (not_bracket_shorthand hsb hsa h.symm).elim
  | none =>
    cases hsb : b.shorthand? with
    | some mark => exact (not_bracket_shorthand hsa hsb h).elim
    | none => exact hS.bracket_append_inj ha hb hsa hsb h

end Plain

/-- What may stand behind the part. -/
def Token.Fits : Token → List Char → Prop
  | .combinator _, x => EndsCombinator x
  | _, x => EndsPart x

theorem sequence_announces (hS : Plain S) (hs : SequenceConforms S P first (t :: s)) :
    Announces t.family (renderSequence (t :: s)).toList := by
  rw [renderSequence, String.toList_append]
  exact (hs.2.1.announces hS).append _

theorem sequence_fits (hS : Plain S) (t : Token)
    (hs : SequenceConforms S P t.kind.isTraversal s) (hx : EndsSequence x) :
    t.Fits ((renderSequence s).toList ++ x) := by
  cases s with
  | nil => cases t <;> simp only [Token.Fits, renderSequence] <;> first
    | exact hx.combinator
    | exact hx.part
  | cons u s =>
    have ha := (sequence_announces hS hs).append x
    have hpart (ht : t.kind.isTraversal = false) :
        EndsPart ((renderSequence (u :: s)).toList ++ x) := by
      apply ha.endsPart
      intro hf
      have := hs.1
      cases u <;> simp_all [Token.family, Token.IsElement]
    cases t <;> first
      | exact ha.endsCombinator
      | exact hpart rfl

theorem sequence_not_end (hS : Plain S) (hs : SequenceConforms S P first (t :: s))
    (hx : EndsSequence x) : x ≠ (renderSequence (t :: s)).toList ++ y := by
  intro h
  subst h
  exact ((sequence_announces hS hs).append y).not_endsSequence hx

theorem element_append_inj (hS : Plain S) (hm : NamespaceOver S m) (hn : NamespaceOver S n)
    (hk : LocalOver S k) (hl : LocalOver S l) (hx : EndsPart x) (hy : EndsPart y)
    (h : (renderNamespace m).toList ++ ((renderLocal k).toList ++ x) =
      (renderNamespace n).toList ++ ((renderLocal l).toList ++ y)) :
    m = n ∧ k = l ∧ x = y :=
  hS.qualified_append_inj hm hn hk hl hx.name hy.name hx.unbarred hy.unbarred h

theorem renderFrom_ends (l : List (List Token)) (index : Nat) (hx : EndsSequence x) :
    EndsSequence ((renderFrom (index + 1) l).toList ++ x) := by
  cases l with
  | nil => exact hx
  | cons s l =>
    intro c hc
    simp [renderFrom] at hc
    exact .inl hc.symm

/-- What may stand behind a list: nothing, or the end of the argument. -/
def EndsList (x : List Char) : Prop :=
  ∀ c ∈ x.head?, c = ')'

theorem EndsList.sequence {x : List Char} (h : EndsList x) : EndsSequence x :=
  fun c hc => .inr (h c hc)

theorem family_eq (hS : Plain S) {t u : Token} (ht : t.Conforms S P) (hu : u.Conforms S P)
    (h : t.render.toList ++ x = u.render.toList ++ y) : t.family = u.family := by
  have ha := (ht.announces hS).append x
  rw [h] at ha
  exact ha.unique ((hu.announces hS).append y)

theorem sequence_nil_append (x : List Char) : (renderSequence []).toList ++ x = x := by
  simp [renderSequence]

theorem list_nil_append (index : Nat) (x : List Char) : (renderFrom index []).toList ++ x = x := by
  simp [renderFrom]

theorem renderFrom_not_end (hS : Plain S) (hl : ListConforms S P (s :: l)) (hx : EndsList x) :
    x ≠ (renderFrom index (s :: l)).toList ++ y := by
  intro h
  by_cases hi : index = 0
  · cases s with
    | nil => exact hl.1 rfl
    | cons t s =>
      subst index
      simp only [renderFrom, if_true, String.toList_append, String.reduceToList,
        List.nil_append, List.append_assoc] at h
      exact sequence_not_end hS hl.2.1 hx.sequence h
  · have hc := hx ',' (by simp [h, renderFrom, hi])
    cases hc

theorem not_pseudo_name (hS : Plain S) (hn : NameOver S name) :
    ':' :: x ≠ (CharClass.name.escape name).toList ++ y := by
  obtain ⟨c, z, he, hc⟩ := hS.name_head hn
  intro h
  rw [he] at h
  exact hc ((List.cons.inj h).1 ▸ by decide)

theorem Argument.ends_name (p : Argument) (hx : EndsPart x) :
    EndsName (p.render.toList ++ x) := by
  cases p with
  | absent => exact hx.name
  | text s =>
    simp only [render, String.toList_append, List.append_assoc]
    exact .of_breaks (by decide) (by decide)
  | selectors list =>
    simp only [render, String.toList_append, List.append_assoc]
    exact .of_breaks (by decide) (by decide)

/-- An argument that is there is seen by its parenthesis. -/
theorem Argument.not_absent {p : Argument} (hx : EndsPart x) (h : x = p.render.toList ++ y) :
    p = .absent := by
  cases p with
  | absent => rfl
  | text s => simp [h, render, EndsPart] at hx
  | selectors list => simp [h, render, EndsPart] at hx

theorem Token.universal_append (ns : Option String) (x : List Char) :
    (Token.universal ns).render.toList ++ x =
      (renderNamespace ns).toList ++ ((renderLocal none).toList ++ x) := by
  rw [render, String.toList_append, List.append_assoc]
  rfl

theorem Token.tag_append (name : String) (ns : Option String) (x : List Char) :
    (Token.tag name ns).render.toList ++ x =
      (renderNamespace ns).toList ++ ((renderLocal (some name)).toList ++ x) := by
  rw [render, String.toList_append, List.append_assoc]
  rfl

theorem Token.pseudoElement_append (name : String) (x : List Char) :
    (Token.pseudoElement name).render.toList ++ x =
      ':' :: ':' :: ((CharClass.name.escape name).toList ++ x) := by
  simp [render]

theorem Token.pseudo_append (name : String) (p : Argument) (x : List Char) :
    (Token.pseudo name p).render.toList ++ x =
      ':' :: ((CharClass.name.escape name).toList ++ (p.render.toList ++ x)) := by
  simp [render]

theorem Argument.text_append (s : String) (x : List Char) :
    (Argument.text s).render.toList ++ x =
      '(' :: ((CharClass.pseudoValue.escape s).toList ++ ')' :: x) := by
  simp [render]

theorem Argument.selectors_append (l : SelectorList) (x : List Char) :
    (Argument.selectors l).render.toList ++ x = '(' :: ((renderFrom 0 l).toList ++ ')' :: x) := by
  have hl := renderList_eq l
  rw [renderList] at hl
  simp [render, hl]

mutual
theorem Token.append_inj (hS : Plain S) : ∀ t u : Token, t.Conforms S P → u.Conforms S P →
    t.Fits x → u.Fits y → t.render.toList ++ x = u.render.toList ++ y →
      t.written = u.written ∧ x = y
  | .combinator c, u => by
    intro ht hu hx hy h
    have hf := family_eq hS ht hu h
    cases u <;> simp only [Token.family, reduceCtorEq] at hf
    obtain ⟨rfl, hxy⟩ := combinator_append_inj hx hy h
    exact ⟨rfl, hxy⟩
  | .universal m, u => by
    intro ht hu hx hy h
    have hf := family_eq hS ht hu h
    cases u <;> simp only [Token.family, reduceCtorEq] at hf
    · rw [Token.universal_append, Token.universal_append] at h
      obtain ⟨rfl, -, hxy⟩ := element_append_inj (k := none) (l := none) hS ht hu trivial
        trivial hx hy h
      exact ⟨rfl, hxy⟩
    · rw [Token.universal_append, Token.tag_append] at h
      obtain ⟨-, hk, -⟩ := element_append_inj (k := none) (l := some _) hS ht hu.2 trivial
        hu.1 hx hy h
      cases hk
  | .tag name m, u => by
    intro ht hu hx hy h
    have hf := family_eq hS ht hu h
    cases u <;> simp only [Token.family, reduceCtorEq] at hf
    · rw [Token.tag_append, Token.universal_append] at h
      obtain ⟨-, hk, -⟩ := element_append_inj (k := some _) (l := none) hS ht.2 hu ht.1
        trivial hx hy h
      cases hk
    · rw [Token.tag_append, Token.tag_append] at h
      obtain ⟨rfl, hk, hxy⟩ := element_append_inj (k := some _) (l := some _) hS ht.2 hu.2 ht.1
        hu.1 hx hy h
      cases hk
      exact ⟨rfl, hxy⟩
  | .pseudoElement name, u => by
    intro ht hu hx hy h
    have hf := family_eq hS ht hu h
    cases u <;> simp only [Token.family, reduceCtorEq] at hf
    · rw [Token.pseudoElement_append, Token.pseudoElement_append] at h
      obtain ⟨rfl, hxy⟩ := hS.name_append_inj ht.2 hu.2 hx.name hy.name
        (List.cons.inj (List.cons.inj h).2).2
      exact ⟨rfl, hxy⟩
    · rw [Token.pseudoElement_append, Token.pseudo_append] at h
      exact (not_pseudo_name hS hu.1 (List.cons.inj h).2).elim
  | .pseudo name p, u => by
    intro ht hu hx hy h
    have hf := family_eq hS ht hu h
    cases u <;> simp only [Token.family, reduceCtorEq] at hf
    · rw [Token.pseudo_append, Token.pseudoElement_append] at h
      exact (not_pseudo_name hS ht.1 (List.cons.inj h).2.symm).elim
    · rename_i name' q
      rw [Token.pseudo_append, Token.pseudo_append] at h
      obtain ⟨rfl, he⟩ := hS.name_append_inj ht.1.2 hu.1.2 (p.ends_name hx) (q.ends_name hy)
        (List.cons.inj h).2
      obtain ⟨hpq, hxy⟩ := Argument.append_inj hS p q ht.2 hu.2 hx hy he
      exact ⟨by rw [Token.written, Token.written, hpq], hxy⟩
  | .attribute a, u => by
    intro ht hu hx hy h
    have hf := family_eq hS ht hu h
    cases u <;> simp only [Token.family, reduceCtorEq] at hf
    obtain ⟨hab, hxy⟩ := hS.attribute_append_inj ht hu hx hy h
    exact ⟨by rw [Token.written, Token.written, hab], hxy⟩
termination_by structural t => t

theorem Argument.append_inj (hS : Plain S) : ∀ p q : Argument, p.Conforms S P name →
    q.Conforms S P name → EndsPart x → EndsPart y →
      p.render.toList ++ x = q.render.toList ++ y → p.written = q.written ∧ x = y
  | .absent, q => by
    intro _ _ hx _ h
    obtain rfl := Argument.not_absent hx h
    exact ⟨rfl, h⟩
  | .text s, q => by
    intro hp hq hx hy h
    cases q with
    | absent => cases Argument.not_absent hy h.symm
    | text t =>
      rw [Argument.text_append, Argument.text_append] at h
      obtain ⟨rfl, hxy⟩ := CharClass.delimited_append_inj rfl rfl (by decide) (List.cons.inj h).2
      exact ⟨rfl, hxy⟩
    | selectors m => exact (hq.1 hp).elim
  | .selectors l, q => by
    intro hp hq hx hy h
    cases q with
    | absent => cases Argument.not_absent hy h.symm
    | text t => exact (hp.1 hq).elim
    | selectors m =>
      rw [Argument.selectors_append, Argument.selectors_append] at h
      obtain ⟨hlm, hxy⟩ := list_append_inj (x := ')' :: x) (y := ')' :: y) hS 0 l m hp.2 hq.2
        (by simp [EndsList]) (by simp [EndsList]) (List.cons.inj h).2
      exact ⟨by rw [Argument.written, Argument.written, hlm], (List.cons.inj hxy).2⟩
termination_by structural p => p

theorem sequence_append_inj (hS : Plain S) : ∀ s r : List Token, SequenceConforms S P first s →
    SequenceConforms S P first' r → EndsSequence x → EndsSequence y →
      (renderSequence s).toList ++ x = (renderSequence r).toList ++ y →
        writtenSequence s = writtenSequence r ∧ x = y
  | [], r => by
    intro _ hr hx _ h
    rw [sequence_nil_append] at h
    cases r with
    | nil => exact ⟨rfl, h.trans (sequence_nil_append y)⟩
    | cons u r => exact (sequence_not_end hS hr hx h).elim
  | t :: s, [] => by
    intro hs _ _ hy h
    rw [sequence_nil_append] at h
    exact (sequence_not_end hS hs hy h.symm).elim
  | t :: s, u :: r => by
    intro hs hr hx hy h
    simp only [renderSequence, String.toList_append, List.append_assoc] at h
    obtain ⟨htu, he⟩ := Token.append_inj hS t u hs.2.1 hr.2.1 (sequence_fits hS t hs.2.2 hx)
      (sequence_fits hS u hr.2.2 hy) h
    obtain ⟨hsr, hxy⟩ := sequence_append_inj hS s r hs.2.2 hr.2.2 hx hy he
    exact ⟨by rw [writtenSequence, writtenSequence, htu, hsr], hxy⟩
termination_by structural s => s

theorem list_append_inj (hS : Plain S) (index : Nat) : ∀ l m : List (List Token),
    ListConforms S P l → ListConforms S P m → EndsList x → EndsList y →
      (renderFrom index l).toList ++ x = (renderFrom index m).toList ++ y →
        writtenList l = writtenList m ∧ x = y
  | [], m => by
    intro _ hm hx _ h
    rw [list_nil_append] at h
    cases m with
    | nil => exact ⟨rfl, h.trans (list_nil_append index y)⟩
    | cons r m => exact (renderFrom_not_end hS hm hx h).elim
  | s :: l, [] => by
    intro hl _ _ hy h
    rw [list_nil_append] at h
    exact (renderFrom_not_end hS hl hy h.symm).elim
  | s :: l, r :: m => by
    intro hl hm hx hy h
    simp only [renderFrom, String.toList_append, List.append_assoc] at h
    obtain ⟨hsr, he⟩ := sequence_append_inj hS s r hl.2.1 hm.2.1
      (renderFrom_ends l index hx.sequence) (renderFrom_ends m index hy.sequence)
      (List.append_cancel_left h)
    obtain ⟨hlm, hxy⟩ := list_append_inj hS (index + 1) l m hl.2.2 hm.2.2 hx hy he
    exact ⟨by rw [writtenList, writtenList, hsr, hlm], hxy⟩
termination_by structural l => l
end

theorem Plain.renderList_inj (hS : Plain S) (ha : ListConforms S P a) (hb : ListConforms S P b)
    (h : renderList a = renderList b) : writtenList a = writtenList b := by
  rw [renderList_eq, renderList_eq] at h
  have hnil : EndsList [] := by simp [EndsList]
  exact (list_append_inj (x := []) (y := []) hS 0 a b ha hb hnil hnil (by rw [h])).1

/-- Two lists that conform are written alike, although they differ in what is written. -/
def Collides (S : Set Char) (P : String → Prop) : Prop :=
  ∃ a b : SelectorList, ListConforms S P a ∧ ListConforms S P b ∧
    renderList a = renderList b ∧ writtenList a ≠ writtenList b

/-- The text `,, ,` is a descendant of `,,` or two alternatives. -/
theorem collides_of_comma (h : ',' ∈ S) : Collides S P := by
  refine ⟨[[.tag ",," none, .combinator .descendant, .tag "," none]],
    [[.tag "," none], [.tag "," none]], ?_, ?_, by decide, by simp [writtenList]⟩ <;>
  simp [ListConforms, SequenceConforms, Token.Conforms, Token.IsElement, Token.kind,
    Kind.isTraversal, NameOver, Over, NamespaceOver, h]

/-- A name between two descendant combinators looks like the combinator with that sign. -/
theorem collides_of_sign (hr : renderList [[.combinator .descendant, .tag (String.singleton s) none,
      .combinator .descendant]] = renderList [[.combinator c]]) (h : s ∈ S) : Collides S P := by
  refine ⟨[[.combinator .descendant, .tag (String.singleton s) none, .combinator .descendant]],
    [[.combinator c]], ?_, ?_, hr, by simp [writtenList, writtenSequence]⟩ <;>
  simp [ListConforms, SequenceConforms, Token.Conforms, Token.IsElement, Token.kind,
    Kind.isTraversal, NameOver, Over, NamespaceOver, h]

/-- A name that starts with the mark of an identifier. -/
theorem collides_of_hash (h : '#' ∈ S) : Collides S P := by
  refine ⟨[[.tag "#" none]], [[.attribute (.ofId "")]], ?_, ?_, by decide,
    by simp [writtenList, writtenSequence, Token.written]⟩ <;>
  simp [ListConforms, SequenceConforms, Token.Conforms, Token.IsElement, Attribute.Conforms,
    Attribute.ofId, Attribute.shorthand?, NameOver, Over, NamespaceOver, h]

theorem collides_of_structural (hc : c ∈ structural) (h : c ∈ S) : Collides S P := by
  simp only [structural, List.mem_cons, List.not_mem_nil, or_false] at hc
  rcases hc with rfl | rfl | rfl | rfl
  · exact collides_of_comma h
  · exact collides_of_sign (c := .child) (by decide) h
  · exact collides_of_sign (c := .parent) (by decide) h
  · exact collides_of_hash h

/-- The text alone, without the reports that go with it. -/
def Reporter.printedText (r : Reporter) (list : SelectorList) : Except Defect String :=
  (r.printList list).map Prod.fst

theorem Reporter.printedText_eq (r : Reporter) (list : SelectorList) :
    r.printedText list = .ok (renderList list) := by
  rw [printedText, printList_eq]
  rfl

/-- The printed text of a conforming list determines all of it that is written, exactly if no
unquoted text has one of the four structural characters. -/
theorem printedText_determines_list_iff (S : Set Char) (P : String → Prop) :
    (∀ (a b : SelectorList) (r q : Reporter), ListConforms S P a → ListConforms S P b →
        r.printedText a = q.printedText b → writtenList a = writtenList b) ↔
      Plain S := by
  constructor
  · intro h c hc hcS
    obtain ⟨a, b, ha, hb, hr, hne⟩ := collides_of_structural (P := P) hc hcS
    apply hne
    apply h a b {} {} ha hb
    rw [Reporter.printedText_eq, Reporter.printedText_eq, hr]
  · intro hS a b r q ha hb h
    rw [Reporter.printedText_eq, Reporter.printedText_eq] at h
    exact hS.renderList_inj ha hb (Except.ok.inj h)

end Selectors
