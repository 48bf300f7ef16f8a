import FeatLoom.FilePath
import FeatLoom.OrderedMap
import FeatLoom.Text.Glob
import FeatLoom.Text.Split

/-!
# File trees

The files and directories that a program sees. A location is the list of names that leads to a file
or directory from the working directory, which itself has the empty location. Locations elsewhere
begin with a slash, for the root, or with double dots, for the directories above the working
directory. Changes run as a `FileAction`, which keeps what was changed before a failure.
-/

namespace FeatLoom

inductive FileError where
  | notFound (path : String)
  | isDirectory (path : String)
  | notDirectory (path : String)
  | exists (path : String)
  | unusablePattern (pattern : String)
  | absolutePattern (pattern : String)
  deriving DecidableEq

abbrev Location := List String

structure FileTree where
  directories : List Location := []
  files : OrderedMap Location ByteArray := OrderedMap.empty

instance : Inhabited FileTree := ⟨{}⟩

namespace FileTree

def rootPlace : Location := ["/"]

def isAbove (place : Location) : Bool := place.all (· == "..")

def isDirectory (tree : FileTree) (place : Location) : Bool :=
  isAbove place || place == rootPlace || tree.directories.contains place

def up (place : Location) : Location :=
  if place == rootPlace then place
  else if isAbove place then place ++ [".."]
  else place.dropLast

def isFile (tree : FileTree) (place : Location) : Bool := tree.files.contains place

def ancestors (place : Location) : List Location :=
  (List.range (place.length - 1)).map fun n => place.take (n + 1)

def addDirectory (tree : FileTree) (place : Location) : FileTree :=
  let missing := (ancestors place ++ [place]).filter fun d => !tree.isDirectory d
  { tree with directories := tree.directories ++ missing }

def addFile (tree : FileTree) (place : Location) (bytes : ByteArray) : FileTree :=
  let grown := tree.addDirectory place.dropLast
  { grown with files := grown.files.insert place bytes }

def start (path : FilePath) : Location := if path.root = "" then [] else rootPlace

/-- The location that a path leads to. Every part before a double dot has to be a directory. -/
def locate? (tree : FileTree) (path : FilePath) : Option Location :=
  path.parts.foldlM (fun place part =>
    if part = ".." then if tree.isDirectory place then some (up place) else none
    else some (place ++ [part])) (start path)

def precedes (a b : Location) : Bool := !decide (b < a)

def isInside (place other : Location) : Bool :=
  place.isPrefixOf other &&
    match other.drop place.length with
    | [] => false
    | name :: _ => name != "/" && name != ".."

def below (tree : FileTree) (place : Location) : List Location :=
  ((tree.directories ++ tree.files.keys).filter (isInside place)).mergeSort precedes

def children (tree : FileTree) (place : Location) : List Location :=
  (tree.below place).filter fun other => other.length == place.length + 1

def pathBelow (base : FilePath) (place inside : Location) : FilePath :=
  { base with parts := base.parts ++ inside.drop place.length }

/-! ## Patterns -/

/-- One step of a path pattern from the places that the steps before led to. Double stars lead to
all directories from a place on, other steps to what they match. -/
def globStep (tree : FileTree) (last : Bool) (step : String)
    (found : List (FilePath × Location)) : List (FilePath × Location) :=
  found.flatMap fun (path, place) =>
    if step = ".." then [(path ++ FilePath.ofText "..", up place)]
    else
      let reached := if step = "**" then place :: (tree.below place).filter tree.isDirectory
        else (tree.children place).filter fun other =>
          Text.globMatches step (other.getLast?.getD "") && (last || tree.isDirectory other)
      reached.map fun other => (pathBelow path place other, other)

def glob (tree : FileTree) (base : FilePath) (place : Location) (pattern : String) :
    Except FileError (List (FilePath × Location)) := do
  let steps := FilePath.ofText pattern
  if steps.root ≠ "" then throw (.absolutePattern pattern)
  if steps.parts.any fun step => step ≠ "**" && Text.holds ['*', '*'] step.toList then
    throw (.unusablePattern pattern)
  let walk : List String → List (FilePath × Location) → List (FilePath × Location) :=
    fun parts start => parts.dropLast.foldl (fun found step => tree.globStep false step found) start
  let found := tree.globStep true (steps.parts.getLast?.getD "") (walk steps.parts [(base, place)])
  return ((found.filter fun entry => tree.isFile entry.2).eraseDups).mergeSort fun a b =>
    precedes a.1.parts b.1.parts

end FileTree

/-! ## Changing files -/

abbrev FileAction (ε : Type) := ExceptT ε (StateM FileTree)

namespace FileAction

def locate (path : FilePath) : FileAction FileError Location := do
  match (← get).locate? path with
  | some place => return place
  | none => throw (.notFound path.toText)

def makeAlong (path : FilePath) (place : Location) : List String → FileAction FileError Location
  | [] => return place
  | part :: rest => do
    if part = ".." then makeAlong path (FileTree.up place) rest
    else
      let inner := place ++ [part]
      if (← get).isFile inner then
        throw (if rest.isEmpty then .exists path.toText else .notDirectory path.toText)
      modify fun tree => tree.addDirectory inner
      makeAlong path inner rest

def makeDirectories (path : FilePath) : FileAction FileError Location :=
  makeAlong path (FileTree.start path) path.parts

def writeText (path : FilePath) (text : String) : FileAction FileError Unit := do
  let place ← locate path
  let tree ← get
  if tree.isDirectory place then throw (.isDirectory path.toText)
  if (FileTree.ancestors place).any tree.isFile then throw (.notDirectory path.toText)
  if !tree.isDirectory place.dropLast then throw (.notFound path.toText)
  set { tree with files := tree.files.insert place text.toUTF8 }

def remove (place : Location) : FileAction FileError Unit :=
  modify fun tree => { tree with files := tree.files.erase place }

end FileAction

end FeatLoom
