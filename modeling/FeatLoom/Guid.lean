import FeatLoom.Text.Integer
import FeatLoom.Text.Split

/-!
# Globally unique identifiers

An identifier is a number of 128 bits, written as 32 hexadecimal digits in groups of 8, 4, 4, 4
and 12. Resource files spell identifiers freely, and `Guid.read?` accepts what they use: the marks
`urn:` and `uuid:` anywhere, braces around the digits, hyphens anywhere, and any spelling of a
hexadecimal number in the 32 characters that remain.
-/

namespace FeatLoom

structure Guid where
  bits : BitVec 128
  deriving DecidableEq, Inhabited

namespace Guid

def nil : Guid := ⟨0⟩

def isNil (id : Guid) : Bool := id == nil

def ofNat (n : Nat) : Guid := ⟨BitVec.ofNat 128 n⟩

def digits (id : Guid) : List Char :=
  let shown := Nat.toDigits 16 id.bits.toNat
  List.replicate (32 - shown.length) '0' ++ shown

def toChars (id : Guid) : List Char :=
  let d := id.digits
  d.take 8 ++ '-' :: (d.drop 8).take 4 ++ '-' :: (d.drop 12).take 4 ++ '-' :: (d.drop 16).take 4 ++
    '-' :: d.drop 20

instance : ToString Guid := ⟨fun id => String.ofList id.toChars⟩

def deleteMark (mark : String) (text : List Char) : List Char :=
  (Text.splitOn mark.toList text).flatten

def isBrace (c : Char) : Bool := c == '\x7b' || c == '\x7d'

def read? (text : String) : Option Guid :=
  let unmarked := deleteMark "uuid:" (deleteMark "urn:" text.toList)
  let inner := ((unmarked.dropWhile isBrace).reverse.dropWhile isBrace).reverse
  let plain := inner.filter (· ≠ '-')
  if plain.length = 32 then
    (Text.readInteger? 16 plain).map fun n => ofNat n.toNat
  else none

end Guid

end FeatLoom
