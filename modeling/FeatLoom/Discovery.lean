import FeatLoom.FileTree
import FeatLoom.Package.Archive
import FeatLoom.Package.Reader
import FeatLoom.Text.Lowercase

/-!
# Discovering modules

Packages are the directories with a `Mods` directory inside, and the files whose name matches a
pattern. All packages below the install paths are read, and the snapshots that matter are collected
by module folder, in the order in which they turn up. A file that is no archive, and a damaged one,
yield no snapshots.
-/

namespace FeatLoom

/-- A directory that holds a directory of this name is an unpacked package. -/
def packageMarker : String := "Mods"

namespace FileTree

def isUnpackedPackage (tree : FileTree) (place : Location) : Bool :=
  tree.isDirectory place && tree.isDirectory (place ++ [packageMarker])

def matchesPattern (pattern name : String) : Bool :=
  Text.globMatches (Text.lower pattern) (Text.lower name)

def packages (tree : FileTree) (patterns : List String) (install : FilePath) :
    List (FilePath × Location) :=
  match tree.locate? install with
  | none => []
  | some place =>
    let isPackage (other : Location) : Bool :=
      if tree.isDirectory other then tree.isUnpackedPackage other
      else patterns.any fun pattern => matchesPattern pattern (other.getLast?.getD "")
    let here := if tree.isUnpackedPackage place then [place] else []
    (here ++ (tree.below place).filter isPackage).map fun other =>
      (pathBelow install place other, other)

def filesBelow (tree : FileTree) (place : Location) : List PackageFile :=
  (tree.below place).filterMap fun other =>
    (tree.files.get? other).map fun bytes =>
      ⟨"/".intercalate (other.drop place.length), bytes⟩

def packageFiles (tree : FileTree) (place : Location) : Archive.Reading :=
  if tree.isDirectory place then { files := tree.filesBelow place }
  else
    match tree.files.get? place with
    | some bytes => Archive.read bytes
    | none => {}

def readPackage [Nesting] (tree : FileTree) (path : FilePath) (place : Location) :
    Except PackageError (OrderedMap String Module) := do
  let reading := tree.packageFiles place
  let contents ← PackageContents.read path.toText reading.files
  match reading.fault with
  | none => return contents.modules
  | some .damaged => return OrderedMap.empty
  | some fault => throw (.archive fault)

end FileTree

abbrev Snapshots := OrderedMap String (List Module)

namespace Snapshots

def add (snapshots : Snapshots) (folder : String) (snapshot : Module) : Snapshots :=
  if snapshot.isInteresting then
    snapshots.alter folder fun present => present.getD [] ++ [snapshot]
  else snapshots

def addPackage (snapshots : Snapshots) (modules : OrderedMap String Module) : Snapshots :=
  modules.entries.foldl (fun found entry => found.add entry.1 entry.2) snapshots

def gather [Nesting] (tree : FileTree) (patterns : List String) (installs : List FilePath) :
    Except PackageError Snapshots :=
  (installs.flatMap (tree.packages patterns)).foldlM (fun found entry => do
    return addPackage found (← tree.readPackage entry.1 entry.2)) OrderedMap.empty

end Snapshots

end FeatLoom
