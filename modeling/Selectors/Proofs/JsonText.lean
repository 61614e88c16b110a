import Mathlib.Tactic.SplitIfs
import Selectors.Json.Compact
import Selectors.Proofs.PrefixCode
import Selectors.Proofs.RoundTrip

namespace Selectors

set_option autoImplicit true

namespace Json

def hexValue (c : Char) : Nat :=
  "0123456789abcdef".toList.idxOf c

theorem hexValue_digitChar : ∀ d < 16, hexValue (Nat.digitChar d) = d := by
  decide

/-- The character that is meant behind a backslash. -/
def readEscape : List Char → Option (Char × List Char)
  | [] => none
  | 'u' :: '0' :: '0' :: a :: b :: x => some (Char.ofNat (16 * hexValue a + hexValue b), x)
  | 'b' :: x => some (Char.ofNat 8, x)
  | 't' :: x => some ('\t', x)
  | 'n' :: x => some ('\n', x)
  | 'f' :: x => some (Char.ofNat 12, x)
  | 'r' :: x => some ('\r', x)
  | c :: x => some (c, x)

/-- The next character between quotes, with what follows it. -/
def readQuoted : List Char → Option (Char × List Char)
  | [] => none
  | c :: x => if c = '\\' then readEscape x else some (c, x)

theorem readQuoted_quoteChar (c : Char) (x : List Char) :
    readQuoted (quoteChar c ++ x) = some (c, x) := by
  have hnumber {n : Nat} (h : c.toNat = n) : Char.ofNat n = c := by
    rw [← h, Char.ofNat_toNat]
  unfold quoteChar
  split_ifs with hself hback htab hline hfeed hreturn hcontrol
  · rcases hself with rfl | rfl <;> rfl
  · rw [← hnumber hback]
    rfl
  · rw [htab]
    rfl
  · rw [hline]
    rfl
  · rw [← hnumber hfeed]
    rfl
  · rw [hreturn]
    rfl
  · have hhigh := hexValue_digitChar (c.toNat / 16) (by omega)
    have hlow := hexValue_digitChar (c.toNat % 16) (by omega)
    have hvalue : Char.ofNat (16 * (c.toNat / 16) + c.toNat % 16) = c :=
      hnumber (Nat.div_add_mod c.toNat 16).symm
    simp [readQuoted, readEscape, hhigh, hlow, hvalue]
  · have hplain : c ≠ '\\' := fun h => hself (.inr h)
    simp [readQuoted, hplain]

theorem prefixCode_quoteChar : PrefixCode quoteChar :=
  .of_read readQuoted_quoteChar

theorem quoteChar_not_quote (c : Char) (x : List Char) : (quoteChar c ++ x).head? ≠ some '"' := by
  intro h
  unfold quoteChar at h
  split_ifs at h with hself
  all_goals cases h
  exact hself (.inl rfl)

theorem quote_append (s : String) (x : List Char) :
    (quote s).toList ++ x = '"' :: (s.toList.flatMap quoteChar ++ '"' :: x) := by
  simp [quote]

/-- A quoted text ends at the first quote that is not escaped. -/
theorem quote_append_inj (h : (quote s).toList ++ x = (quote t).toList ++ y) : s = t ∧ x = y := by
  rw [quote_append, quote_append] at h
  rw [← String.toList_inj]
  exact flatMap_mark_append_inj (fun c _ d _ => prefixCode_quoteChar c d) quoteChar_not_quote
    (List.cons.inj h).2

theorem cons_intercalate (f : α → String) (a : α) (l : List α) :
    ',' :: (",".intercalate ((a :: l).map f)).toList =
      (a :: l).flatMap fun b => ',' :: (f b).toList := by
  induction l generalizing a with
  | nil => simp
  | cons b l ih =>
    rw [List.flatMap_cons, ← ih b]
    simp

theorem intercalate_append_head {f : α → String} {a : α} (hne : (f a).toList ≠ []) (l : List α)
    (x : List Char) :
    ((",".intercalate ((a :: l).map f)).toList ++ x).head? = (f a).toList.head? := by
  obtain ⟨c, z, hc⟩ := List.exists_cons_of_ne_nil hne
  cases l with
  | nil => simp [hc]
  | cons b l => simp [hc]

/-- Texts between commas are told up to a mark that none of them begins with. -/
theorem intercalate_append_inj {f : α → String} {l m : List α}
    (hf : ∀ a ∈ l, ∀ b ∈ m, ∀ x y, (f a).toList ++ x = (f b).toList ++ y → a = b ∧ x = y)
    (hl : ∀ a ∈ l, (f a).toList ≠ [] ∧ (f a).toList.head? ≠ some mark)
    (hm : ∀ b ∈ m, (f b).toList ≠ [] ∧ (f b).toList.head? ≠ some mark) (hmark : ',' ≠ mark)
    (h : (",".intercalate (l.map f)).toList ++ mark :: x =
      (",".intercalate (m.map f)).toList ++ mark :: y) : l = m ∧ x = y := by
  cases l with
  | nil =>
    cases m with
    | nil => exact ⟨rfl, (List.cons.inj h).2⟩
    | cons b m =>
      obtain ⟨hne, hb⟩ := hm b (.head m)
      have hhead := intercalate_append_head hne m (mark :: y)
      rw [← h] at hhead
      exact (hb hhead.symm).elim
  | cons a l =>
    cases m with
    | nil =>
      obtain ⟨hne, ha⟩ := hl a (.head l)
      have hhead := intercalate_append_head hne l (mark :: x)
      rw [h] at hhead
      exact (ha hhead.symm).elim
    | cons b m =>
      -- with a comma in front of each of them, the texts are codes in a row
      have hcommas := congrArg (',' :: ·) h
      simp only [← List.cons_append, cons_intercalate] at hcommas
      apply flatMap_mark_append_inj ?_ ?_ hcommas
      · intro c hc d hd x y he
        exact hf c hc d hd x y (List.cons.inj he).2
      · intro c x he
        exact hmark (Option.some.inj he)

theorem compactItems_eq_map (items : List Json) : compactItems items = items.map compact := by
  induction items with
  | nil => rfl
  | cons v items ih => rw [compactItems, List.map_cons, ih]

/-- A field of an object, its key in front. -/
def compactField (field : String × Json) : String :=
  quote field.1 ++ ":" ++ field.2.compact

theorem compactField_append (key : String) (v : Json) (x : List Char) :
    (compactField (key, v)).toList ++ x = (quote key).toList ++ ':' :: (v.compact.toList ++ x) := by
  simp [compactField]

theorem compactFields_eq_map (fields : List (String × Json)) :
    compactFields fields = fields.map compactField := by
  induction fields with
  | nil => rfl
  | cons field fields ih =>
    rw [compactFields, List.map_cons, ih]
    rfl

/-- No number stands anywhere in the value. -/
inductive Numberless : Json → Prop
  | null : Numberless .null
  | true : Numberless (.bool true)
  | false : Numberless (.bool false)
  | string (s : String) : Numberless (.string s)
  | array (h : ∀ v ∈ items, Numberless v) : Numberless (.array items)
  | object (h : ∀ field ∈ fields, Numberless field.2) : Numberless (.object fields)

/-- The first character of a text, which tells the values of one kind from those of another. -/
def opener : Json → Char
  | .null => 'n'
  | .bool true => 't'
  | .bool false => 'f'
  | .integer _ | .real _ => '0'
  | .string _ => '"'
  | .array _ => '['
  | .object _ => '\x7b'

theorem array_append (items : List Json) (x : List Char) : (array items).compact.toList ++ x =
    '[' :: ((",".intercalate (items.map compact)).toList ++ ']' :: x) := by
  simp [compact, compactItems_eq_map]

theorem object_append (fields : List (String × Json)) (x : List Char) :
    (object fields).compact.toList ++ x =
      '\x7b' :: ((",".intercalate (fields.map compactField)).toList ++ '\x7d' :: x) := by
  simp [compact, compactFields_eq_map]

theorem Numberless.opener_append {v : Json} (h : v.Numberless) (x : List Char) :
    ∃ z, v.compact.toList ++ x = v.opener :: z := by
  cases h with
  | null => exact ⟨"ull".toList ++ x, by simp [compact, opener]⟩
  | true => exact ⟨"rue".toList ++ x, by simp [compact, boolText, opener]⟩
  | false => exact ⟨"alse".toList ++ x, by simp [compact, boolText, opener]⟩
  | string s => exact ⟨_, quote_append s x⟩
  | array h => exact ⟨_, array_append _ x⟩
  | object h => exact ⟨_, object_append _ x⟩

theorem Numberless.opener_eq {v w : Json} (hv : v.Numberless) (hw : w.Numberless)
    (h : v.compact.toList ++ x = w.compact.toList ++ y) : v.opener = w.opener := by
  obtain ⟨z, hz⟩ := hv.opener_append x
  obtain ⟨z', hz'⟩ := hw.opener_append y
  rw [hz, hz'] at h
  exact (List.cons.inj h).1

theorem Numberless.opens_item {v : Json} (h : v.Numberless) :
    v.compact.toList ≠ [] ∧ v.compact.toList.head? ≠ some ']' := by
  obtain ⟨z, hz⟩ := h.opener_append []
  rw [List.append_nil] at hz
  rw [hz]
  refine ⟨nofun, fun he => ?_⟩
  have hopener := Option.some.inj he
  cases h <;> cases hopener

theorem opens_field (field : String × Json) :
    (compactField field).toList ≠ [] ∧ (compactField field).toList.head? ≠ some '\x7d' := by
  simp [compactField, quote]

/-- A text without numbers determines its value and where it ends. -/
theorem Numberless.compact_append_inj {v w : Json} (hv : v.Numberless) (hw : w.Numberless)
    (h : v.compact.toList ++ x = w.compact.toList ++ y) : v = w ∧ x = y := by
  have hopener := hv.opener_eq hw h
  induction hv generalizing w x y with
  | null =>
    cases hw with
    | null => exact ⟨rfl, List.append_cancel_left h⟩
    | _ => cases hopener
  | true =>
    cases hw with
    | true => exact ⟨rfl, List.append_cancel_left h⟩
    | _ => cases hopener
  | false =>
    cases hw with
    | false => exact ⟨rfl, List.append_cancel_left h⟩
    | _ => cases hopener
  | string s =>
    cases hw with
    | string t =>
      obtain ⟨rfl, hxy⟩ := quote_append_inj h
      exact ⟨rfl, hxy⟩
    | _ => cases hopener
  | @array items hv ih =>
    cases hw with
    | @array items' hw =>
      have hitems : ∀ v ∈ items, ∀ w ∈ items', ∀ x y,
          v.compact.toList ++ x = w.compact.toList ++ y → v = w ∧ x = y := by
        intro v hvm w hwm x y he
        exact ih v hvm (hw w hwm) he ((hv v hvm).opener_eq (hw w hwm) he)
      rw [array_append, array_append] at h
      obtain ⟨rfl, hxy⟩ := intercalate_append_inj hitems (fun v hm => (hv v hm).opens_item)
        (fun w hm => (hw w hm).opens_item) (by decide) (List.cons.inj h).2
      exact ⟨rfl, hxy⟩
    | _ => cases hopener
  | @object fields hv ih =>
    cases hw with
    | @object fields' hw =>
      have hfields : ∀ field ∈ fields, ∀ field' ∈ fields', ∀ x y,
          (compactField field).toList ++ x = (compactField field').toList ++ y →
            field = field' ∧ x = y := by
        rintro ⟨key, v⟩ hvm ⟨key', w⟩ hwm x y he
        rw [compactField_append, compactField_append] at he
        obtain ⟨rfl, hrest⟩ := quote_append_inj he
        have hvw := (List.cons.inj hrest).2
        obtain ⟨rfl, hxy⟩ := ih _ hvm (hw _ hwm) hvw ((hv _ hvm).opener_eq (hw _ hwm) hvw)
        exact ⟨rfl, hxy⟩
      rw [object_append, object_append] at h
      obtain ⟨rfl, hxy⟩ := intercalate_append_inj hfields (fun field _ => opens_field field)
        (fun field _ => opens_field field) (by decide) (List.cons.inj h).2
      exact ⟨rfl, hxy⟩
    | _ => cases hopener

theorem Numberless.compact_inj {v w : Json} (hv : v.Numberless) (hw : w.Numberless) :
    v.compact = w.compact ↔ v = w := by
  refine ⟨fun h => ?_, congrArg compact⟩
  exact (hv.compact_append_inj (x := []) (y := []) hw (by rw [h])).1

end Json

theorem encodeOption_numberless (ns : Option String) : (encodeOption ns).Numberless := by
  cases ns with
  | none => exact .null
  | some s => exact .string s

theorem CaseMode.encode_numberless (m : CaseMode) : m.encode.Numberless := by
  cases m with
  | insensitive => exact .true
  | sensitive => exact .false
  | unflagged => exact .string "quirks"

theorem encodeObject_numberless (k : Kind) {fields : List (String × Json)}
    (h : ∀ field ∈ fields, field.2.Numberless) : (encodeObject k fields).Numberless := by
  apply Json.Numberless.object
  intro field hfield
  cases hfield with
  | head => exact .string k.name
  | tail _ hfield => exact h field hfield

theorem Attribute.fields_numberless (a : Attribute) : ∀ field ∈ a.fields, field.2.Numberless := by
  simp only [fields, List.forall_mem_cons]
  exact ⟨.string a.name, .string a.action.name, .string a.value, encodeOption_numberless a.ns,
    a.caseMode.encode_numberless, List.forall_mem_nil _⟩

mutual
theorem Token.encode_numberless : ∀ t : Token, t.encode.Numberless
  | .combinator c => encodeObject_numberless _ (List.forall_mem_nil _)
  | .universal ns => encodeObject_numberless _ (by simp [encodeOption_numberless])
  | .tag name ns =>
    encodeObject_numberless _ (by simp [encodeOption_numberless, Json.Numberless.string])
  | .pseudoElement name => encodeObject_numberless _ (by simp [Json.Numberless.string])
  | .pseudo name p =>
    encodeObject_numberless _ (by simp [p.encode_numberless, Json.Numberless.string])
  | .attribute a => encodeObject_numberless _ a.fields_numberless

theorem Argument.encode_numberless : ∀ p : Argument, p.encode.Numberless
  | .absent => .null
  | .text s => .string s
  | .selectors list => .array (encodeSequences_numberless list)

theorem encodeSequence_numberless : ∀ s : List Token, ∀ v ∈ encodeSequence s, v.Numberless
  | [] => List.forall_mem_nil _
  | t :: s => List.forall_mem_cons.mpr ⟨t.encode_numberless, encodeSequence_numberless s⟩

theorem encodeSequences_numberless :
    ∀ list : List (List Token), ∀ v ∈ encodeSequences list, v.Numberless
  | [] => List.forall_mem_nil _
  | s :: list => List.forall_mem_cons.mpr
      ⟨.array (encodeSequence_numberless s), encodeSequences_numberless list⟩
end

theorem encodeList_numberless (list : SelectorList) : (encodeList list).Numberless :=
  .array (encodeSequences_numberless list)

/-- What is read back from its value is determined by the text of the value. -/
theorem compact_inj_of_read {encode : α → Json} {read : Json → Except Refusal α}
    (hencode : ∀ x, (encode x).Numberless) (hread : ∀ x, read (encode x) = .ok x) (x y : α) :
    (encode x).compact = (encode y).compact ↔ x = y := by
  rw [(hencode x).compact_inj (hencode y)]
  refine ⟨fun h => ?_, congrArg encode⟩
  have hx := hread x
  rw [h, hread y] at hx
  exact (Except.ok.inj hx).symm

/-- The text of a list determines the list, and the text of a field its value: so nothing that is
absent is written like a text, no text like a list, and no two case modes alike. -/
theorem jsonText_determines_list :
    (∀ a b : SelectorList, (encodeList a).compact = (encodeList b).compact ↔ a = b) ∧
      (∀ p q : Argument, p.encode.compact = q.encode.compact ↔ p = q) ∧
      (∀ m n : Option String, (encodeOption m).compact = (encodeOption n).compact ↔ m = n) ∧
      ∀ m n : CaseMode, m.encode.compact = n.encode.compact ↔ m = n := by
  have hargument (p : Argument) : readArgument p.encode = .ok p :=
    (readArgument_eq_ok _ p).mpr (p.denotes_of_trims (.same _))
  have hoption (ns : Option String) : readOption (encodeOption ns) = .ok ns :=
    readOption_eq_ok.mpr (encodeOption_denotes ns).2
  have hmode (m : CaseMode) : readCaseMode m.encode = .ok m :=
    readCaseMode_eq_ok.mpr m.encode_denotes.2
  exact ⟨compact_inj_of_read encodeList_numberless fun _ => decodeList_of_trims (.same _),
    compact_inj_of_read Argument.encode_numberless hargument,
    compact_inj_of_read encodeOption_numberless hoption,
    compact_inj_of_read CaseMode.encode_numberless hmode⟩

/-- A text that looks like a list, and the list. -/
example : (Argument.text "[[]]").encode.compact = "\"[[]]\"" ∧
    (Argument.selectors [[]]).encode.compact = "[[]]" := by
  decide

end Selectors
