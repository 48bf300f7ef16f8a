import FeatLoom.Text.Blank

/-!
# Cutting text at a separator

`splitOn` cuts at every occurrence from the left and keeps empty pieces, so a text with `n`
separators has `n + 1` pieces. `items` is the form in which the game data writes lists: pieces are
trimmed and empty ones dropped.
-/

namespace FeatLoom.Text

/-- Pieces of a text of which `skip` more characters belong to a separator and `piece`, in
reverse, is the piece begun. -/
def piecesAfter (separator : List Char) (skip : Nat) (piece : List Char) :
    List Char → List (List Char)
  | [] => [piece.reverse]
  | c :: rest =>
    match skip with
    | more + 1 => piecesAfter separator more piece rest
    | 0 =>
      if separator.isPrefixOf (c :: rest) then
        piece.reverse :: piecesAfter separator (separator.length - 1) [] rest
      else piecesAfter separator 0 (c :: piece) rest

def splitOn (separator text : List Char) : List (List Char) := piecesAfter separator 0 [] text

def items (separator text : List Char) : List (List Char) :=
  ((splitOn separator text).map trim).filter fun item => !item.isEmpty

def itemsOf (separator : Char) (text : String) : List String :=
  (items [separator] text.toList).map String.ofList

def holds (part : List Char) : List Char → Bool
  | [] => part.isEmpty
  | c :: rest => part.isPrefixOf (c :: rest) || holds part rest

def cutAt (separator : Char) (text : List Char) : List Char × Option (List Char) :=
  match text.dropWhile (· ≠ separator) with
  | [] => (text, none)
  | _ :: rest => (text.takeWhile (· ≠ separator), some rest)

example : splitOn ['a', 'a'] "xaaay".toList = [['x'], ['a', 'y']] := by decide

end FeatLoom.Text
