import FeatLoom.Yaml.Cursor
import FeatLoom.Yaml.Error

/-!
# Block scalars

A block scalar has its lines below its sign, indented alike. Its header may say by how much, and
whether the line breaks at its end are kept, cut to one, or dropped. Lines are taken as they stand,
or folded: a break between two lines that begin with no blank reads as a space.
-/

namespace FeatLoom.Yaml.Block

inductive Ending where
  | keep
  | clip
  | strip
  deriving DecidableEq

structure Header where
  ending : Ending := .clip
  indent : Option Nat := none

def ending? : Char → Option Ending
  | '+' => some .keep
  | '-' => some .strip
  | _ => none

def isDigit (c : Char) : Bool := '0' ≤ c && c ≤ '9'

/-- Reads a digit for the indentation, if one stands here. It may not be zero. -/
def indent? (cursor : Cursor) : Except Error (Option Nat × Cursor) :=
  match cursor.head? with
  | some c =>
    if !isDigit c then .ok (none, cursor)
    else if c == '0' then .error .malformed
    else .ok (some (c.toNat - 48), cursor.next)
  | none => .ok (none, cursor)

def readEnding (cursor : Cursor) : Option Ending × Cursor :=
  match cursor.head?.bind ending? with
  | some ending => (some ending, cursor.next)
  | none => (none, cursor)

def restOfLine (cursor : Cursor) : Except Error Cursor :=
  let after := cursor.skipWhile (· == ' ')
  let ended := if after.head? == some '#' then after.toLineEnd else after
  if ended.atLineEnd then .ok ended.next else .error .malformed

/-- Reads a header and the rest of its line. The two signs may come in either order. -/
def header (cursor : Cursor) : Except Error (Header × Cursor) := do
  let (first, cursor) := readEnding cursor
  let (indent, cursor) ← indent? cursor
  let (second, cursor) :=
    if first.isNone && indent.isSome then readEnding cursor else (none, cursor)
  if !Cursor.endsOr (fun c => c == ' ' || isBreak c) cursor.rest then throw .malformed
  let after ← restOfLine cursor
  return ({ ending := (first.or second).getD .clip, indent }, after)

/-- The empty lines before the first one that is not, the greatest indentation among the lines, and
the place after. -/
def leadingLines : Nat → Cursor → List Char × Nat × Cursor
  | 0, cursor => ([], 0, cursor)
  | fuel + 1, cursor =>
    let indented := cursor.skipWhile (· == ' ')
    match indented.head? with
    | some c =>
      if isBreak c then
        let (breaks, deepest, after) := leadingLines fuel indented.next
        (foldedBreak c :: breaks, max indented.column deepest, after)
      else ([], indented.column, indented)
    | none => ([], indented.column, indented)

/-- The empty lines from here on, and the place after them and after the indentation of the next
line. -/
def emptyLines (indent : Nat) : Nat → Cursor → List Char × Cursor
  | 0, cursor => ([], cursor)
  | fuel + 1, cursor =>
    let indented := cursor.indentTo indent
    match indented.head? with
    | some c =>
      if isBreak c then
        let (breaks, after) := emptyLines indent fuel indented.next
        (foldedBreak c :: breaks, after)
      else ([], indented)
    | none => ([], indented)

def inBlock (indent : Nat) (cursor : Cursor) : Bool :=
  cursor.column == indent && !cursor.rest.isEmpty

def startsBlank (cursor : Cursor) : Bool := cursor.head? == some ' ' || cursor.head? == some '\t'

def joint (isFolded : Bool) (line next : Cursor) (lineBreak breaks : List Char) : List Char :=
  if isFolded && lineBreak == ['\n'] && !startsBlank line && !startsBlank next then
    (if breaks.isEmpty then [' '] else [])
  else lineBreak

def Ending.release (lineBreak breaks : List Char) : Ending → List Char
  | keep => lineBreak ++ breaks
  | clip => lineBreak
  | strip => []

def lines (isFolded : Bool) (ending : Ending) (indent : Nat) :
    Nat → List Char → Cursor → List Char × Cursor
  | 0, _, cursor => ([], cursor)
  | fuel + 1, before, cursor =>
    if !inBlock indent cursor then (ending.release [] before, cursor)
    else
      let ended := cursor.toLineEnd
      let text := cursor.rest.take (ended.index - cursor.index)
      let lineBreak := (ended.head?.map foldedBreak).toList
      let (breaks, after) := emptyLines indent (ended.rest.length + 1) ended.next
      if inBlock indent after then
        let (more, final) := lines isFolded ending indent fuel breaks after
        (before ++ text ++ joint isFolded cursor after lineBreak breaks ++ more, final)
      else (before ++ text ++ ending.release lineBreak breaks, after)

def read (isFolded : Bool) (outer : Int) (cursor : Cursor) : Except Error (String × Cursor) := do
  let (header, start) ← header cursor.next
  let least := max 1 (outer + 1).toNat
  let fuel := start.rest.length + 1
  let (before, indent, first) := match header.indent with
    | some deeper =>
      let indent := least + deeper - 1
      let (before, first) := emptyLines indent fuel start
      (before, indent, first)
    | none =>
      let (before, deepest, first) := leadingLines fuel start
      (before, max least deepest, first)
  let (text, after) := lines isFolded header.ending indent fuel before first
  return (String.ofList text, after)

end FeatLoom.Yaml.Block
