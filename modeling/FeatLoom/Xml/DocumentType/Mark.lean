import FeatLoom.Text.Split
import FeatLoom.Xml.Name

/-!
# The marks of declarations

A declaration is made of words, quoted texts and signs. What may follow a mark without white space
between is laid down for each kind of mark.
-/

namespace FeatLoom.Xml

inductive Mark where
  | name (name : RawName)
  | word
  | repeated
  | quoted (text : List Char)
  | reserved (letters : String)
  | percent
  | opening
  | closing (repetition : Option Char)
  | comma
  | bar
  deriving DecidableEq

namespace Mark

def isRepetition (c : Char) : Bool := c == '?' || c == '*' || c == '+'

def isBefore (signs : List Char) (text : List Char) : Bool :=
  text.head?.any fun c => isSpace c || signs.contains c

def isWordChar (alphabet : Alphabet) (c : Char) : Bool := isNameChar alphabet c || c == ':'

def name? (alphabet : Alphabet) (letters : List Char) : Option RawName :=
  if letters.head?.any (isNameStart alphabet) then
    match Text.splitOn [':'] letters with
    | [base] => some ⟨none, String.ofList base⟩
    | [first, c :: base] => some ⟨some (String.ofList first), String.ofList (c :: base)⟩
    | _ => none
  else none

def word? (alphabet : Alphabet) (text : List Char) : Option (Mark × List Char) :=
  let letters := text.takeWhile (isWordChar alphabet)
  let rest := text.dropWhile (isWordChar alphabet)
  let found := name? alphabet letters
  if letters.isEmpty then none
  else if isBefore ">),|[%".toList rest then some ((found.map name).getD word, rest)
  else
    match found, rest with
    | some _, c :: left => if isRepetition c then some (repeated, left) else none
    | _, _ => none

def mark? (alphabet : Alphabet) : List Char → Option (Mark × List Char)
  | '(' :: rest => some (opening, rest)
  | ',' :: rest => some (comma, rest)
  | '|' :: rest => some (bar, rest)
  | '%' :: rest => if isBefore ['%'] rest then some (percent, rest) else none
  | '#' :: rest => do
    let (letters, left) ← simpleName? alphabet rest
    if isBefore ">)|%".toList left then some (reserved letters, left) else none
  | ')' :: rest =>
    match rest with
    | c :: left =>
      if isRepetition c then some (closing (some c), left)
      else if isBefore ">),|".toList rest then some (closing none, rest)
      else none
    | [] => none
  | c :: rest =>
    if c == '"' || c == '\x27' then
      match rest.dropWhile (· ≠ c) with
      | _ :: left =>
        if isBefore ">[%".toList left then some (quoted (rest.takeWhile (· ≠ c)), left) else none
      | [] => none
    else word? alphabet (c :: rest)
  | [] => none

def marks? (alphabet : Alphabet) : Nat → List Char → Option (List Mark × Char × List Char)
  | 0, _ => none
  | fuel + 1, text =>
    match text.dropWhile isSpace with
    | '>' :: rest => some ([], '>', rest)
    | '[' :: rest => some ([], '[', rest)
    | start => do
      let (mark, rest) ← mark? alphabet start
      let (marks, sign, left) ← marks? alphabet fuel rest
      some (mark :: marks, sign, left)

end Mark

end FeatLoom.Xml
