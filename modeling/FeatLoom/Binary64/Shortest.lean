import FeatLoom.Binary64

/-!
# The shortest decimal form

A number is written with the fewest digits from which it can be read back, and with those nearest to
it where there is a choice.
-/

namespace FeatLoom.Binary64

/-- The numbers that are read as a number of some mantissa and power lie between two bounds. All
three are given in quarters of the unit of the mantissa. -/
structure Reach where
  low : Nat
  center : Nat
  high : Nat
  closed : Bool

def reach (mantissa : Nat) (power : Int) : Reach where
  low := if 2 * mantissa == mantissaBound && leastPower < power then 4 * mantissa - 1
    else 4 * mantissa - 2
  center := 4 * mantissa
  high := 4 * mantissa + 2
  closed := mantissa % 2 == 0

def leadingPlace (above below : Nat) : Int :=
  if below ≤ above then (Nat.toDigits 10 (above / below)).length - 1
  else -((Nat.toDigits 10 (below / above)).length : Int)

/-- Some count of units of a place of ten that is read as a number; of two neighbours the nearer one
and then the even one. -/
def candidate? (range : Reach) (power place : Int) : Option Nat :=
  -- Both sides are taken to whole numbers: quarters of the mantissa's unit, and units of the place.
  let (quarter, one) := scaled 1 4 (-power)
  let (unit, part) := if 0 ≤ place then (powerOfTen place.toNat, 1)
    else (1, powerOfTen (-place).toNat)
  let weight := quarter * part
  let step := unit * one
  let floor := range.center * weight / step
  let isIn (count : Nat) : Bool :=
    let spot := count * step
    if range.closed then range.low * weight ≤ spot && spot ≤ range.high * weight
    else range.low * weight < spot && spot < range.high * weight
  let belowBy := range.center * weight - floor * step
  let aboveBy := (floor + 1) * step - range.center * weight
  match isIn floor, isIn (floor + 1) with
  | true, true =>
    some (if belowBy < aboveBy || (belowBy == aboveBy && floor % 2 == 0) then floor else floor + 1)
  | true, false => some floor
  | false, true => some (floor + 1)
  | false, false => none

def shortest (mantissa : Nat) (power : Int) : Nat × Int :=
  let (above, below) := size mantissa power
  let first := leadingPlace above below
  let range := reach mantissa power
  ((List.range 17).findSome? fun (n : Nat) =>
    (candidate? range power (first - n)).map fun count => (count, first - n)).getD (0, 0)

/-! ## Text -/

def trimZeros (fuel : Nat) (digits : Nat) (place : Int) : Nat × Int :=
  match fuel with
  | 0 => (digits, place)
  | fuel + 1 =>
    if digits ≠ 0 && digits % 10 == 0 then trimZeros fuel (digits / 10) (place + 1)
    else (digits, place)

def zeros (count : Int) : List Char := List.replicate count.toNat '0'

def exponentText (power : Int) : List Char :=
  let digits := Nat.toDigits 10 power.natAbs
  (if power < 0 then '-' else '+') :: List.replicate (2 - digits.length) '0' ++ digits

def pointed (digits : List Char) (point : Int) : List Char :=
  if digits.length ≤ point then digits ++ zeros (point - digits.length) ++ ['.', '0']
  else if 0 < point then digits.take point.toNat ++ '.' :: digits.drop point.toNat
  else ['0', '.'] ++ zeros (-point) ++ digits

def scientific (digits : List Char) (point : Int) : List Char :=
  let lead := match digits with
    | first :: second :: rest => first :: '.' :: second :: rest
    | short => short
  lead ++ 'e' :: exponentText (point - 1)

/-- Digits with the last one at a place of ten: positional from a ten-thousandth up to sixteen
digits before the point. -/
def digitsText (digits : Nat) (place : Int) : List Char :=
  let shown := Nat.toDigits 10 digits
  let (short, place) := trimZeros shown.length digits place
  let shown := Nat.toDigits 10 short
  let point := place + shown.length
  if -4 < point && point ≤ 16 then pointed shown point else scientific shown point

def toText : Binary64 → String
  | infinite negative => if negative then "-inf" else "inf"
  | notANumber => "nan"
  | finite negative mantissa power =>
    let body := if mantissa == 0 then ['0', '.', '0']
      else
        let (digits, place) := shortest mantissa power
        digitsText digits place
    String.ofList (if negative then '-' :: body else body)

example : (ofDigits false 19 (-1)).toText = "1.9" := by decide +kernel
example : (ofDigits false 1 16).toText = "1e+16" := by decide +kernel
example : (ofDigits true 5 (-5)).toText = "-5e-05" := by decide +kernel
example : (ofDigits true 0 0).toText = "-0.0" := by decide +kernel
example : (ofDigits false 49 (-325)).toText = "5e-324" := by decide +kernel

end FeatLoom.Binary64
