import Selectors.Token.Basic

namespace Selectors

mutual
def Token.same : Token → Token → Bool
  | .combinator c, .combinator d => c = d
  | .universal m, .universal n => m = n
  | .tag x m, .tag y n => x = y ∧ m = n
  | .pseudoElement x, .pseudoElement y => x = y
  | .pseudo x p, .pseudo y q => x = y && p.same q
  | .attribute a, .attribute b => a = b
  | _, _ => false
termination_by structural t => t

def Argument.same : Argument → Argument → Bool
  | .absent, .absent => true
  | .text s, .text t => s = t
  | .selectors l, .selectors m => listSame l m
  | _, _ => false
termination_by structural p => p

def sequenceSame : List Token → List Token → Bool
  | [], [] => true
  | t :: s, u :: r => t.same u && sequenceSame s r
  | _, _ => false
termination_by structural s => s

def listSame : List (List Token) → List (List Token) → Bool
  | [], [] => true
  | s :: l, r :: m => sequenceSame s r && listSame l m
  | _, _ => false
termination_by structural l => l
end

mutual
theorem Token.same_iff : ∀ a b : Token, a.same b ↔ a = b
  | .combinator _, b => by cases b <;> simp [Token.same]
  | .universal _, b => by cases b <;> simp [Token.same]
  | .tag _ _, b => by cases b <;> simp [Token.same]
  | .pseudoElement _, b => by cases b <;> simp [Token.same]
  | .pseudo _ p, b => by
    cases b <;> simp [Token.same]
    rw [Argument.same_iff p]
    simp
  | .attribute _, b => by cases b <;> simp [Token.same]

theorem Argument.same_iff : ∀ p q : Argument, p.same q ↔ p = q
  | .absent, q => by cases q <;> simp [Argument.same]
  | .text _, q => by cases q <;> simp [Argument.same]
  | .selectors l, q => by cases q <;> simp [Argument.same, listSame_iff l]

theorem sequenceSame_iff : ∀ s r : List Token, sequenceSame s r ↔ s = r
  | [], r => by cases r <;> simp [sequenceSame]
  | t :: s, r => by cases r <;> simp [sequenceSame, t.same_iff, sequenceSame_iff s]

theorem listSame_iff : ∀ l m : List (List Token), listSame l m ↔ l = m
  | [], m => by cases m <;> simp [listSame]
  | s :: l, m => by cases m <;> simp [listSame, sequenceSame_iff s, listSame_iff l]
end

instance : DecidableEq Token :=
  fun a b => decidable_of_iff _ (a.same_iff b)

instance : DecidableEq Argument :=
  fun p q => decidable_of_iff _ (p.same_iff q)

end Selectors
