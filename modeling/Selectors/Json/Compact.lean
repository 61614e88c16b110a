import Selectors.Json.Basic

namespace Selectors.Json

def quoteChar (c : Char) : List Char :=
  if c = '"' ∨ c = '\\' then ['\\', c]
  else if c.toNat = 8 then ['\\', 'b']
  else if c = '\t' then ['\\', 't']
  else if c = '\n' then ['\\', 'n']
  else if c.toNat = 12 then ['\\', 'f']
  else if c = '\r' then ['\\', 'r']
  else if c.toNat < 0x20 then
    ['\\', 'u', '0', '0', Nat.digitChar (c.toNat / 16), Nat.digitChar (c.toNat % 16)]
  else [c]

def quote (text : String) : String :=
  String.ofList ('"' :: text.toList.flatMap quoteChar ++ ['"'])

mutual
/-- The text of a value without blanks, the fields of an object in their order. -/
def compact : Json → String
  | .null => "null"
  | .bool b => boolText b
  | .integer n => toString n
  | .real x => floatText x
  | .string s => quote s
  | .array items => "[" ++ ",".intercalate (compactItems items) ++ "]"
  | .object fields => "\x7b" ++ ",".intercalate (compactFields fields) ++ "\x7d"

def compactItems : List Json → List String
  | [] => []
  | v :: items => v.compact :: compactItems items

def compactFields : List (String × Json) → List String
  | [] => []
  | (key, v) :: fields => (quote key ++ ":" ++ v.compact) :: compactFields fields
end

end Selectors.Json
