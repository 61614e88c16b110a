import Selectors.Decimal.Shortest
import Selectors.Text.Quoted

namespace Selectors

inductive Json
  | null
  | bool (b : Bool)
  | integer (n : Int)
  | real (x : Float)
  | string (s : String)
  | array (items : List Json)
  | object (fields : List (String × Json))
  deriving Inhabited

/-- A value without what it contains, as a message names it. -/
inductive Shape
  | null
  | bool (b : Bool)
  | integer (n : Int)
  | real (x : Float)
  | string (s : String)
  | sequence
  | map

namespace Json

/-- The nearest float to `digits * 10 ^ exponent`, or to that below zero. -/
def nearest (negative : Bool) (digits : Nat) (exponent : Int) : Float :=
  let size := Float.ofScientific digits (exponent < 0) exponent.natAbs
  if negative then -size else size

/-- A numeral without a point and an exponent is an integer if it fits into 64 bits, with a sign or
without; minus zero is none. -/
def ofNumeral (negative : Bool) (digits : Nat) : (exponent : Option Int) → Json
  | some exponent => .real (nearest negative digits exponent)
  | none =>
    if negative then
      if 0 < digits ∧ digits ≤ 0x8000000000000000 then .integer (-digits)
      else .real (nearest negative digits 0)
    else if digits ≤ 0xffffffffffffffff then .integer digits
    else .real (nearest negative digits 0)

def shape : Json → Shape
  | .null => .null
  | .bool b => .bool b
  | .integer n => .integer n
  | .real x => .real x
  | .string s => .string s
  | .array _ => .sequence
  | .object _ => .map

end Json

def boolText (b : Bool) : String :=
  if b then "true" else "false"

def Shape.text : Shape → String
  | .null => "null"
  | .bool b => "boolean `" ++ boolText b ++ "`"
  | .integer n => "integer `" ++ toString n ++ "`"
  | .real x => "floating point `" ++ floatText x ++ "`"
  | .string s => "string " ++ quoted s
  | .sequence => "sequence"
  | .map => "map"

end Selectors
