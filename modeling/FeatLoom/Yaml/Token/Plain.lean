import FeatLoom.Yaml.Cursor

/-!
# Plain scalars

A plain scalar runs until a colon that ends a word, until a comment, or until a line that is not
indented enough; between brackets the signs of lists and mappings end it as well. Its line breaks
are folded: one alone reads as a space, and of several all but the first stay.
-/

namespace FeatLoom.Yaml

def signs : List Char := "-?:,[]\x7b\x7d#&*!|>'\"%@`".toList

def brackets : List Char := ",[]\x7b\x7d".toList

def folded (first : Char) (more : List Char) : List Char :=
  if foldedBreak first ≠ '\n' then foldedBreak first :: more.map foldedBreak
  else if more.isEmpty then [' ']
  else more.map foldedBreak

namespace Plain

def starts (isFlow : Bool) : List Char → Bool
  | [] => false
  | c :: rest =>
    if isGap c then false
    else if signs.contains c then
      !Cursor.endsOr isGap rest && (c == '-' || (!isFlow && (c == '?' || c == ':')))
    else true

def stops (isFlow : Bool) (c : Char) (rest : List Char) : Bool :=
  isGap c || (isFlow && (c == '?' || brackets.contains c)) ||
    (c == ':' && Cursor.endsOr (fun d => isGap d || (isFlow && brackets.contains d)) rest)

def word (isFlow : Bool) : List Char → List Char
  | [] => []
  | c :: rest => if stops isFlow c rest then [] else c :: word isFlow rest

/-- The breaks among the spaces and breaks at the start of a text, and what is left of it. There are
none where a document ends on the way. -/
def breaks : List Char → Option (List Char) × List Char
  | [] => (some [], [])
  | c :: rest =>
    if c == ' ' then breaks rest
    else if isBreak c then
      if Cursor.isDocumentMark rest then (none, rest)
      else
        let (more, left) := breaks rest
        (more.map (c :: ·), left)
    else (some [], c :: rest)

/-- What stands between a word and the next one, and the place after it. There is nothing where a
document ends on the way. -/
def gap (cursor : Cursor) : List Char × Cursor :=
  let spaces := cursor.rest.takeWhile (· == ' ')
  let after := cursor.skip spaces.length
  match after.rest with
  | c :: rest =>
    if isBreak c then
      if Cursor.isDocumentMark rest then ([], after.next)
      else
        let (more, left) := breaks rest
        ((more.map (folded c)).getD [], after.skipTo left)
    else (spaces, after)
  | [] => (spaces, after)

structure Found where
  text : List Char
  after : Cursor
  isLast : Bool

/-- Reads a plain scalar. Lines that go on are indented by at least so many columns. -/
def read (isFlow : Bool) (least : Nat) : Nat → Cursor → Found
  | 0, cursor => ⟨[], cursor, false⟩
  | fuel + 1, cursor =>
    let begun := word isFlow cursor.rest
    let ending := cursor.skip begun.length
    let (joint, after) := gap ending
    let alone : Found := ⟨begun, after, ending.line ≠ after.line⟩
    if begun.isEmpty then ⟨[], cursor, false⟩
    else if joint.isEmpty || after.head? == some '#' || (!isFlow && after.column < least) then alone
    else
      let more := read isFlow least fuel after
      if more.text.isEmpty then alone else { more with text := begun ++ joint ++ more.text }

end Plain

end FeatLoom.Yaml
