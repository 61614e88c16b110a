namespace Selectors

/-- The number `significand * 2 ^ exponent`. -/
structure Binary where
  significand : Nat
  exponent : Int
  /-- The next smaller number is half as far away as the next larger one. -/
  narrowBelow : Bool
  deriving DecidableEq

/-- The size of a finite 64-bit float with these bits. -/
def Binary.ofBits (bits : UInt64) : Binary :=
  let e := (bits >>> 52 &&& 0x7ff).toNat
  let f := (bits &&& 0xfffffffffffff).toNat
  if e = 0 then ⟨f, -1074, false⟩ else ⟨0x10000000000000 + f, e - 1075, f = 0 ∧ 1 < e⟩

/-- The number `digits * 10 ^ exponent`. -/
structure Decimal where
  digits : Nat
  exponent : Int
  deriving DecidableEq

namespace Decimal

/-- The factor that a positive exponent of ten stands for. -/
def tenTo (e : Int) : Nat :=
  Nat.pow 10 e.toNat

/-- The factor that a positive exponent of two stands for. -/
def twoTo (e : Int) : Nat :=
  Nat.pow 2 e.toNat

/-- Compares `d` with `n * 2 ^ e`. -/
def compareScaled (d : Decimal) (n : Nat) (e : Int) : Ordering :=
  compare (d.digits * tenTo d.exponent * twoTo (-e)) (n * twoTo e * tenTo (-d.exponent))

/-- `d` lies between the midpoints from `b` to its neighbours; a midpoint itself goes to the even
significand. -/
def roundsTo (d : Decimal) (b : Binary) : Bool :=
  let even := b.significand % 2 = 0
  let below := d.compareScaled (4 * b.significand - if b.narrowBelow then 1 else 2)
    (b.exponent - 2)
  let above := d.compareScaled (4 * b.significand + 2) (b.exponent - 2)
  (below = .gt ∨ even ∧ below = .eq) ∧ (above = .lt ∨ even ∧ above = .eq)

/-- The number of digits before the point; zero or less for a number below one tenth. No 64-bit
float is below `10 ^ -330`. -/
def pointOf (b : Binary) : Int :=
  let scaled := b.significand * tenTo 330 * twoTo b.exponent / twoTo (-b.exponent)
  (Nat.toDigits 10 scaled).length - 330

/-- The last multiple of `10 ^ e` that is no larger than `b`. -/
def floor (b : Binary) (e : Int) : Decimal where
  digits := b.significand * twoTo b.exponent * tenTo (-e) / (twoTo (-b.exponent) * tenTo e)
  exponent := e

/-- The multiple of `10 ^ e` that stands for `b`, if one does: the nearer of the two around `b`,
and the even one of two that are equally near. -/
def onGrid? (b : Binary) (e : Int) : Option Decimal :=
  let lo := floor b e
  let hi := { lo with digits := lo.digits + 1 }
  match lo.roundsTo b, hi.roundsTo b with
  | true, true =>
    match compareScaled ⟨lo.digits + hi.digits, e⟩ b.significand (b.exponent + 1) with
    | .gt => some lo
    | .lt => some hi
    | .eq => some (if lo.digits % 2 = 0 then lo else hi)
  | true, false => some lo
  | false, true => some hi
  | false, false => none

/-- The fewest digits that stand for `b`, of at most 17, which always suffice. -/
def shortest (b : Binary) : Decimal :=
  let point := pointOf b
  ((List.range' 1 17).findSome? fun (n : Nat) => onGrid? b (point - n)).getD (floor b (point - 17))

/-- Digits, and how many of them stand before the point; trailing zeros are left out. -/
def toDigits (d : Decimal) : List Char × Int :=
  let all := Nat.toDigits 10 d.digits
  ((all.reverse.dropWhile (· = '0')).reverse, all.length + d.exponent)

/-- Positional from `10 ^ -5` up to below `10 ^ 16`, always with a point; outside, a power of ten with
its sign, behind one digit and the point, which a single digit leaves out. -/
def text (d : Decimal) : String :=
  let (digits, point) := d.toDigits
  let size : Int := digits.length
  String.ofList <|
    if size ≤ point ∧ point ≤ 16 then
      digits ++ List.replicate (point - size).toNat '0' ++ ['.', '0']
    else if 0 < point ∧ point ≤ 16 then
      digits.take point.toNat ++ '.' :: digits.drop point.toNat
    else if -5 < point ∧ point ≤ 0 then
      '0' :: '.' :: List.replicate (-point).toNat '0' ++ digits
    else
      digits.take 1 ++ (if size = 1 then [] else '.' :: digits.drop 1) ++
        'e' :: (if 0 < point then ['+'] else []) ++ (toString (point - 1)).toList

end Decimal

/-- The text of a finite float. -/
def floatText (x : Float) : String :=
  let bits := x.toBits
  let b := Binary.ofBits bits
  (if bits >>> 63 = 0 then "" else "-") ++
    if b.significand = 0 then "0.0" else (Decimal.shortest b).text

end Selectors
