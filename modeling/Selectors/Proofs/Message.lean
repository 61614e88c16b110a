import Selectors.Proofs.Fault
import Selectors.Warning

namespace Selectors

set_option autoImplicit true

/-- The literals on both sides of a text, each joined with the one beside it. -/
theorem join_literals {a b c d start stop : String} (hstart : a ++ b = start)
    (hstop : c ++ d = stop) (text : String) :
    a ++ (b ++ text ++ c) ++ d = start ++ text ++ stop := by
  subst hstart hstop
  simp only [String.append_assoc]

theorem join_start {a b c start : String} (h : a ++ b = start) (text : String) :
    a ++ (b ++ text ++ c) = start ++ text ++ c := by
  subst h
  simp only [String.append_assoc]

theorem mismatch_message (v : Json) (expected : Expected) :
    (Refusal.mismatch v.shape expected).message = invalidType v expected.text := by
  cases v <;> rfl

theorem missingField_message (key : String) :
    (Refusal.missingField key).message = missingField key := by
  have hstart : "missing field " ++ "`" = "missing field `" := rfl
  exact join_start hstart key

theorem unknownVariant_eq {known : List String} (h : ", ".intercalate (known.map ticked) = listed)
    (name : String) : unknownVariant name known =
      "unknown variant `" ++ name ++ "`, expected one of " ++ listed := by
  have hstart : "unknown variant " ++ "`" = "unknown variant `" := rfl
  have hstop : "`" ++ ", expected one of " = "`, expected one of " := rfl
  subst h
  exact congrArg (· ++ ", ".intercalate (known.map ticked)) (join_literals hstart hstop name)

theorem unknownAction_message (name : String) :
    (Refusal.unknownAction name).message = unknownAction name :=
  unknownVariant_eq rfl name

theorem unknownKind_message (name : String) :
    (Refusal.unknownKind name).message = unknownKind name :=
  unknownVariant_eq rfl name

theorem tooShort_message {k : Kind} (items : List Json) (hk : k.Record expected) :
    (Refusal.tooShort items.length k).message = invalidLength items expected := by
  have hstop : ", expected struct " ++ k.recordName ++ " with " ++ k.elements =
      ", expected " ++ expected := by
    cases hk <;> rfl
  calc
    _ = "invalid length " ++ toString items.length ++ ", expected struct " ++ k.recordName ++
        " with " ++ k.elements := rfl
    _ = "invalid length " ++ toString items.length ++
        (", expected struct " ++ k.recordName ++ " with " ++ k.elements) := by
      simp only [String.append_assoc]
    _ = "invalid length " ++ toString items.length ++ (", expected " ++ expected) := by rw [hstop]
    _ = invalidLength items expected := String.append_assoc.symm

theorem tooLong_message {k : Kind} (items : List Json) (hk : k.Items expected) :
    (Refusal.tooLong items.length k).message = invalidLength items expected := by
  have hstop : k.elements ++ " in sequence" = expected := by
    cases hk with
    | combinator c => cases c <;> rfl
    | _ => rfl
  calc
    _ = "invalid length " ++ toString items.length ++ ", expected " ++ k.elements ++
        " in sequence" := rfl
    _ = "invalid length " ++ toString items.length ++ ", expected " ++
        (k.elements ++ " in sequence") := String.append_assoc
    _ = invalidLength items expected := congrArg _ hstop

/-- The key under which the empty sequence at a position is recorded. -/
def gapKey (index : Nat) : String :=
  "[Selector] empty selector sequence at index " ++ toString index ++ " of selector list"

theorem gapKey_inj (h : gapKey i = gapKey j) : i = j := by
  have hnumber : toString i = toString j :=
    (String.append_right_inj _).mp ((String.append_left_inj _).mp h)
  have hdigits : Nat.toDigits 10 i = Nat.toDigits 10 j := by
    rwa [Nat.toString_eq_ofList_toDigits, Nat.toString_eq_ofList_toDigits,
      String.ofList_inj] at hnumber
  calc
    i = Nat.ofDigitChars 10 (Nat.toDigits 10 i) 0 := Nat.ofDigitChars_ten_toDigits.symm
    _ = Nat.ofDigitChars 10 (Nat.toDigits 10 j) 0 := by rw [hdigits]
    _ = j := Nat.ofDigitChars_ten_toDigits

theorem Warning.emptySequence_key (index : Nat) : (emptySequence index).key = gapKey index := by
  have hstart : "[" ++ "Selector" ++ "] " ++ "empty selector sequence at index " =
      "[Selector] empty selector sequence at index " := rfl
  exact join_start hstart (toString index)

theorem Warning.emptySequence_line (index : Nat) : (emptySequence index).line =
    "\x1b[33m[Cinder Selector] ⚠ empty selector sequence at index " ++ toString index ++
      " of selector list\x1b[39m\n" := by
  have hstart : "\x1b[33m[Cinder " ++ "Selector" ++ "] ⚠ " ++ "empty selector sequence at index " =
      "\x1b[33m[Cinder Selector] ⚠ empty selector sequence at index " := rfl
  have hstop : " of selector list" ++ "\x1b[39m\n" = " of selector list\x1b[39m\n" := rfl
  exact join_literals hstart hstop (toString index)

end Selectors
