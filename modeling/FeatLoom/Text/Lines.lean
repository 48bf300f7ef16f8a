/-!
# Lines

Text breaks into lines at line feeds, carriage returns (a pair of both is one break), vertical
tabs, form feeds, the information separators U+001C to U+001E, U+0085, U+2028 and U+2029. A break
at the end of the text starts no further line.
-/

namespace FeatLoom.Text

def isLineBreak (c : Char) : Bool :=
  let n := c.toNat
  (0x0A ≤ n && n ≤ 0x0D) || (0x1C ≤ n && n ≤ 0x1E) || n == 0x85 || n == 0x2028 || n == 0x2029

def linesAfter (started : List Char) : List Char → List (List Char)
  | [] => if started.isEmpty then [] else [started.reverse]
  | '\r' :: '\n' :: rest => started.reverse :: linesAfter [] rest
  | c :: rest =>
    if isLineBreak c then started.reverse :: linesAfter [] rest else linesAfter (c :: started) rest

def lines (text : List Char) : List (List Char) := linesAfter [] text

example : lines "a\r\nb\n\nc\n".toList = ["a".toList, "b".toList, [], "c".toList] := by decide

end FeatLoom.Text
