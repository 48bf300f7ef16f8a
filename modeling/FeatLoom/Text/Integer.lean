import FeatLoom.Text.Blank
import FeatLoom.Text.Digit

/-!
# Integers written in text

A written integer is a sign and a run of digits of any script, with single underscores allowed
between two digits, surrounded by blanks. In base sixteen a leading `0x` is skipped. The four
information separators do not count as blanks here.
-/

namespace FeatLoom.Text

def isNumberBlank (c : Char) : Bool := isBlank c && !(0x1C ≤ c.toNat && c.toNat ≤ 0x1F)

def letterValue? (c : Char) : Option Nat :=
  if 'a' ≤ c && c ≤ 'z' then some (c.toNat - 87)
  else if 'A' ≤ c && c ≤ 'Z' then some (c.toNat - 55)
  else none

def digitIn? (base : Nat) (c : Char) : Option Nat :=
  ((digitValue? c).or (letterValue? c)).filter (· < base)

def digitRun? (base : Nat) : List Char → Option (List Nat)
  | [] => none
  | c :: rest =>
    match digitIn? base c, rest with
    | none, _ => none
    | some digit, [] => some [digit]
    | some digit, '_' :: more => (digit :: ·) <$> digitRun? base more
    | some digit, next :: more => (digit :: ·) <$> digitRun? base (next :: more)

def skipBaseMark (base : Nat) : List Char → List Char
  | lead :: mark :: rest =>
    if base == 16 && digitValue? lead == some 0 && (mark == 'x' || mark == 'X') then
      match rest with
      | '_' :: more => more
      | _ => rest
    else lead :: mark :: rest
  | text => text

def readInteger? (base : Nat) (text : List Char) : Option Int :=
  let body := ((text.dropWhile isNumberBlank).reverse.dropWhile isNumberBlank).reverse
  let magnitude (digits : List Char) : Option Nat :=
    (digitRun? base (skipBaseMark base digits)).map (ofDigits base)
  match body with
  | '-' :: digits => (magnitude digits).map fun n => -(n : Int)
  | '+' :: digits => (magnitude digits).map Int.ofNat
  | digits => (magnitude digits).map Int.ofNat

def toInt? (text : String) : Option Int := readInteger? 10 text.toList

end FeatLoom.Text
