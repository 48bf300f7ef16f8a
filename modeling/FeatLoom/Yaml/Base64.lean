/-!
# Bytes written as letters

A text can stand for bytes: every letter holds six bits, so four letters hold three bytes. Equal
signs fill up the last group of four. Characters that are no letters do not count.
-/

namespace FeatLoom.Yaml.Base64

def sixBits? (c : Char) : Option Nat :=
  if 'A' ≤ c && c ≤ 'Z' then some (c.toNat - 65)
  else if 'a' ≤ c && c ≤ 'z' then some (c.toNat - 71)
  else if '0' ≤ c && c ≤ '9' then some (c.toNat + 4)
  else if c == '+' then some 62
  else if c == '/' then some 63
  else none

/-- Decodes what follows some letters of a group and signs that fill it up. The bits of those
letters that no byte has taken yet are given as a number. Two letters and two signs, or three
letters and one sign, end the text. -/
def bytesAfter? (letters fillers bits : Nat) : List Char → Option (List UInt8)
  | [] => if letters = 0 then some [] else none
  | c :: rest =>
    if c == '=' then
      if letters < 2 then bytesAfter? letters fillers bits rest
      else if 4 ≤ letters + fillers + 1 then some []
      else bytesAfter? letters (fillers + 1) bits rest
    else
      match sixBits? c with
      | none => bytesAfter? letters fillers bits rest
      | some six =>
        if letters = 0 then bytesAfter? 1 0 six rest
        else
          let joined := bits * 64 + six
          let unit := 4 ^ (3 - letters)
          (bytesAfter? ((letters + 1) % 4) 0 (joined % unit) rest).map
            (UInt8.ofNat (joined / unit) :: ·)

/-- The bytes that a text stands for, if its groups are full. It has to be made of ASCII. -/
def bytes? (text : String) : Option (List UInt8) :=
  if text.toList.all fun c => c.toNat < 0x80 then bytesAfter? 0 0 0 text.toList else none

example : bytes? "aGk=" = some [0x68, 0x69] := by decide +kernel
example : bytes? "aG" = none := by decide +kernel

end FeatLoom.Yaml.Base64
