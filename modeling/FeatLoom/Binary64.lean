/-!
# Floating-point numbers

Floating-point numbers with 53 bits of precision, as a sign, a whole mantissa and a power of two.
Every operation takes the exact result to the nearest such number; of two that are equally near it
takes the one with an even mantissa. Where a number has several forms, the one with the least power
that there is comes out of every operation.
-/

namespace FeatLoom

inductive Binary64 where
  /-- The mantissa times two to the power. -/
  | finite (negative : Bool) (mantissa : Nat) (power : Int)
  | infinite (negative : Bool)
  | notANumber
  deriving DecidableEq, Inhabited

namespace Binary64

def mantissaBound : Nat := 0x20000000000000

def leastPower : Int := -1074

def greatestPower : Int := 971

def powerOfTwo (n : Nat) : Nat := Nat.pow 2 n

def powerOfTen (n : Nat) : Nat := Nat.pow 10 n

def zero : Binary64 := finite false 0 leastPower

def scaled (numerator denominator : Nat) (power : Int) : Nat × Nat :=
  if 0 ≤ power then (numerator, denominator * powerOfTwo power.toNat)
  else (numerator * powerOfTwo (-power).toNat, denominator)

/-- The whole number nearest to a fraction; of two the even one. -/
def nearest (numerator denominator : Nat) : Nat :=
  let whole := numerator / denominator
  let twice := 2 * (numerator % denominator)
  if denominator < twice || (twice == denominator && whole % 2 == 1) then whole + 1 else whole

def powerFor (numerator denominator : Nat) : Int :=
  let guess := max leastPower ((numerator.log2 : Int) - denominator.log2 - 53)
  let (above, below) := scaled numerator denominator guess
  if mantissaBound ≤ above / below then guess + 1 else guess

def ofFraction (negative : Bool) (numerator denominator : Nat) : Binary64 :=
  let power := powerFor numerator denominator
  let (above, below) := scaled numerator denominator power
  let mantissa := nearest above below
  let (mantissa, power) :=
    if mantissa == mantissaBound then (mantissa / 2, power + 1) else (mantissa, power)
  if greatestPower < power then infinite negative else finite negative mantissa power

def infinitePlace : Int := 309

def vanishingPlace : Int := -325

def ofDigits (negative : Bool) (digits : Nat) (exponent : Int) : Binary64 :=
  let place := exponent + (Nat.toDigits 10 digits).length
  if digits == 0 || place < vanishingPlace then finite negative 0 leastPower
  else if infinitePlace < place then infinite negative
  else if 0 ≤ exponent then ofFraction negative (digits * powerOfTen exponent.toNat) 1
  else ofFraction negative digits (powerOfTen (-exponent).toNat)

def ofNat (n : Nat) : Binary64 := ofFraction false n 1

def negate : Binary64 → Binary64
  | finite negative mantissa power => finite (!negative) mantissa power
  | infinite negative => infinite (!negative)
  | notANumber => notANumber

def add : Binary64 → Binary64 → Binary64
  | finite _ m p, finite _ n q =>
    let power := min p q
    let total := m * powerOfTwo (p - power).toNat + n * powerOfTwo (q - power).toNat
    let (above, below) := scaled total 1 (-power)
    ofFraction false above below
  | notANumber, _ => notANumber
  | _, notANumber => notANumber
  | _, _ => infinite false

/-- The product of numbers that are not negative. Nothing times an infinite number is no number. -/
def mul : Binary64 → Binary64 → Binary64
  | finite _ m p, finite _ n q =>
    let (above, below) := scaled (m * n) 1 (-(p + q))
    ofFraction false above below
  | finite _ 0 _, infinite _ => notANumber
  | infinite _, finite _ 0 _ => notANumber
  | notANumber, _ => notANumber
  | _, notANumber => notANumber
  | _, _ => infinite false

def isZero : Binary64 → Bool
  | finite _ mantissa _ => mantissa == 0
  | _ => false

def size (mantissa : Nat) (power : Int) : Nat × Nat := scaled mantissa 1 (-power)

def truncated (negative : Bool) (mantissa : Nat) (power : Int) : Int :=
  let (above, below) := size mantissa power
  if negative then -((above / below : Nat) : Int) else ((above / below : Nat) : Int)

def toInt? : Binary64 → Option Int
  | finite negative mantissa power =>
    let (above, below) := size mantissa power
    if above % below == 0 then some (truncated negative mantissa power) else none
  | _ => none

/-- Whether two numbers are equal. Both zeros are, and what is no number equals itself. -/
def same (a b : Binary64) : Bool := a == b || (a.isZero && b.isZero)

example : ofDigits false 1 0 = finite false 0x10000000000000 (-52) := by decide +kernel
example : ofDigits false 18 307 = infinite false := by decide +kernel
example : ofDigits false 49 (-325) = finite false 1 (-1074) := by decide +kernel

end Binary64

end FeatLoom
