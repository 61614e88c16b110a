namespace Selectors

/-- A byte range that is reversed, runs past the text or cuts a character in two. -/
structure BadRange where
  start : Nat
  stop : Nat
  deriving DecidableEq

def slice (text : String) (start stop : String.Pos.Raw) : Except BadRange String :=
  if start ≤ stop ∧ start.isValid text ∧ stop.isValid text then
    .ok (start.extract text stop)
  else
    .error ⟨start.byteIdx, stop.byteIdx⟩

end Selectors
