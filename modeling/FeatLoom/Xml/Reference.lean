import FeatLoom.Xml.Name

/-!
# References

A text holds characters, references to characters by number, and references to entities by name.
-/

namespace FeatLoom.Xml

def characterAt? (n : Nat) : Option Char :=
  if h : n.isValidChar then
    let c := Char.ofNatAux n h
    if isDocumentChar c then some c else none
  else none

def referenceNumber? (base : Nat) (digits : List Char) : Option Nat :=
  if digits.isEmpty then none
  else digits.foldl (fun value c => do
    let value ← value
    let digit ← if c.isDigit then some (c.toNat - 48)
      else if base == 16 && 'a' ≤ c && c ≤ 'f' then some (c.toNat - 87)
      else if base == 16 && 'A' ≤ c && c ≤ 'F' then some (c.toNat - 55)
      else none
    -- Once out of range a number stays there, however many digits follow.
    some (min (value * base + digit) 0x110000)) (some 0)

inductive Piece where
  | literal (c : Char)
  | numbered (c : Char)
  | entity (name : String)

def number? (base : Nat) (text : List Char) : Option (Piece × List Char) :=
  match text.dropWhile (· ≠ ';') with
  | [] => none
  | _ :: left => do
    let n ← referenceNumber? base (text.takeWhile (· ≠ ';'))
    some (.numbered (← characterAt? n), left)

def reference? (alphabet : Alphabet) : List Char → Option (Piece × List Char)
  | '#' :: 'x' :: rest => number? 16 rest
  | '#' :: rest => number? 10 rest
  | text => do
    let (name, rest) ← simpleName? alphabet text
    match rest with
    | ';' :: left => some (.entity name, left)
    | _ => none

def piecesWithin? (alphabet : Alphabet) : Nat → List Char → Option (List Piece)
  | _, [] => some []
  | 0, _ => none
  | fuel + 1, c :: rest =>
    if c == '&' then do
      let (piece, left) ← reference? alphabet rest
      (piecesWithin? alphabet fuel left).map (piece :: ·)
    else if c == '\r' && rest.head? == some '\n' then piecesWithin? alphabet fuel rest
    else (piecesWithin? alphabet fuel rest).map (.literal (if c == '\r' then '\n' else c) :: ·)

/-- Cuts a text into pieces. A carriage return, alone or before a line feed, is a line feed. -/
def pieces? (alphabet : Alphabet) (text : List Char) : Option (List Piece) :=
  piecesWithin? alphabet text.length text

def standardEntity? (name : String) : Option Char :=
  [("lt", '<'), ("gt", '>'), ("amp", '&'), ("quot", '"'), ("apos", '\x27')].lookup name

end FeatLoom.Xml
