import Selectors.Text.Unshown

namespace Selectors

def hexDigits (c : Char) : List Char :=
  Nat.toDigits 16 c.toNat

/-- A character between double quotes; one that would not show is written by its number. -/
def quotedChar (c : Char) : List Char :=
  if c = '"' ∨ c = '\\' then ['\\', c]
  else if c = '\n' then ['\\', 'n']
  else if c = '\r' then ['\\', 'r']
  else if c = '\t' then ['\\', 't']
  else if c.toNat = 0 then ['\\', '0']
  else if isUnshown c then
    '\\' :: 'u' :: '\x7b' :: hexDigits c ++ ['\x7d']
  else [c]

def quoted (text : String) : String :=
  String.ofList ('"' :: text.toList.flatMap quotedChar ++ ['"'])

end Selectors
