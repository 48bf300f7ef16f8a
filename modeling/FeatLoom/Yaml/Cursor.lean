/-!
# Cursors

A place in a document: the characters that remain, how many came before, and the line and column.
Line feeds, U+0085, U+2028 and U+2029 break lines. A byte order mark takes no column.
-/

namespace FeatLoom.Yaml

def isBreak (c : Char) : Bool :=
  c == '\n' || c.toNat == 0x85 || c.toNat == 0x2028 || c.toNat == 0x2029

def isGap (c : Char) : Bool := c == ' ' || c == '\t' || isBreak c

def foldedBreak (c : Char) : Char := if c.toNat == 0x85 then '\n' else c

def byteOrderMark : Char := Char.ofNat 0xFEFF

structure Cursor where
  rest : List Char
  index : Nat := 0
  line : Nat := 0
  column : Nat := 0

namespace Cursor

def next (cursor : Cursor) : Cursor :=
  match cursor.rest with
  | [] => cursor
  | c :: rest =>
    if isBreak c then ⟨rest, cursor.index + 1, cursor.line + 1, 0⟩
    else ⟨rest, cursor.index + 1, cursor.line,
      if c == byteOrderMark then cursor.column else cursor.column + 1⟩

def skip (cursor : Cursor) : Nat → Cursor
  | 0 => cursor
  | count + 1 => cursor.next.skip count

def skipWhile (p : Char → Bool) (cursor : Cursor) : Cursor :=
  cursor.skip (cursor.rest.takeWhile p).length

def skipTo (cursor : Cursor) (rest : List Char) : Cursor :=
  cursor.skip (cursor.rest.length - rest.length)

def head? (cursor : Cursor) : Option Char := cursor.rest.head?

def endsOr (p : Char → Bool) (text : List Char) : Bool := text.head?.all p

def atLineEnd (cursor : Cursor) : Bool := endsOr isBreak cursor.rest

def toLineEnd (cursor : Cursor) : Cursor := cursor.skipWhile fun c => !isBreak c

def toTokenFrom (comment : Bool) (index line column : Nat) : List Char → Cursor
  | [] => ⟨[], index, line, column⟩
  | c :: rest =>
    if isBreak c then toTokenFrom false (index + 1) (line + 1) 0 rest
    else if comment || c == ' ' || c == '#' then
      toTokenFrom (comment || c == '#') (index + 1) line
        (if c == byteOrderMark then column else column + 1) rest
    else ⟨c :: rest, index, line, column⟩

/-- The next place where something stands. A byte order mark at the very start is passed over. -/
def toToken (cursor : Cursor) : Cursor :=
  let start :=
    if cursor.index == 0 && cursor.head? == some byteOrderMark then cursor.next else cursor
  toTokenFrom false start.index start.line start.column start.rest

def isMark (c : Char) : List Char → Bool
  | a :: b :: d :: rest => a == c && b == c && d == c && endsOr isGap rest
  | _ => false

def isDocumentMark (text : List Char) : Bool := isMark '-' text || isMark '.' text

def indentTo (column : Nat) (cursor : Cursor) : Cursor :=
  cursor.skip (min (cursor.rest.takeWhile (· == ' ')).length (column - cursor.column))

end Cursor

end FeatLoom.Yaml
