/-!
# File paths

A path is a root and a list of names. Empty names and single dots carry nothing and are dropped,
so paths that differ in repeated slashes only are equal; double dots are kept.
-/

namespace FeatLoom

structure FilePath where
  /-- Nothing for a relative path, else one slash, or two where exactly two were written. -/
  root : String := ""
  parts : List String
  deriving DecidableEq, Inhabited

namespace FilePath

def pieces (text : List Char) : List (List Char) :=
  text.foldr
    (fun c found =>
      match found with
      | piece :: rest => if c = '/' then [] :: piece :: rest else (c :: piece) :: rest
      | [] => [])
    [[]]

def isNamed (piece : List Char) : Bool := piece ≠ [] && piece ≠ ['.']

def rootOf : List Char → String
  | '/' :: '/' :: '/' :: _ => "/"
  | '/' :: '/' :: _ => "//"
  | '/' :: _ => "/"
  | _ => ""

def ofText (text : String) : FilePath where
  root := rootOf text.toList
  parts := ((pieces text.toList).filter isNamed).map String.ofList

/-- The written form; the path without names is a dot. -/
def toText (path : FilePath) : String :=
  if path.root = "" && path.parts.isEmpty then "." else path.root ++ "/".intercalate path.parts

/-- A path continued by another; an absolute continuation stands for itself. -/
def append (path next : FilePath) : FilePath :=
  if next.root = "" then { path with parts := path.parts ++ next.parts } else next

instance : Append FilePath := ⟨append⟩

def name (path : FilePath) : String := path.parts.getLast?.getD ""

def parent (path : FilePath) : FilePath := { path with parts := path.parts.dropLast }

/-- The ending of a file name from its last point on. A point at either end of the name begins no
ending. -/
def suffix (path : FilePath) : String :=
  let reversed := path.name.toList.reverse
  match reversed.takeWhile (· ≠ '.'), reversed.dropWhile (· ≠ '.') with
  | c :: ending, '.' :: _ :: _ => String.ofList ('.' :: (c :: ending).reverse)
  | _, _ => ""

example : (ofText "a//b/./c/../d/").toText = "a/b/c/../d" := by decide +kernel
example : (ofText "").toText = "." := by decide +kernel

end FilePath

end FeatLoom
