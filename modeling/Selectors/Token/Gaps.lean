import Selectors.Token.Basic

namespace Selectors

mutual
/-- The positions of the empty sequences, each one counted within its own list, in the order of
the text. -/
def Token.gaps : Token → List Nat
  | .pseudo _ argument => argument.gaps
  | _ => []

def Argument.gaps : Argument → List Nat
  | .selectors list => listGaps list 0
  | _ => []

def sequenceGaps : List Token → List Nat
  | [] => []
  | t :: s => t.gaps ++ sequenceGaps s

def listGaps : List (List Token) → (index : Nat) → List Nat
  | [], _ => []
  | s :: l, index => (if s.isEmpty then [index] else []) ++ sequenceGaps s ++ listGaps l (index + 1)
end

end Selectors
