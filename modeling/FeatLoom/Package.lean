import FeatLoom.FilePath
import FeatLoom.Text.Lowercase
import FeatLoom.Text.Split

/-!
# Packages

A package is a list of named files. The second part of a file's path names the folder of the module
that the file belongs to, and the path decides what the file holds:

    Mods/<module>/meta.lsx                         identity and dependencies
    Public/<module>/Feats/Feats.lsx                feats
    Public/<module>/FeatDescriptions/...lsx        feat descriptions
    Public/<module>/Stats/Generated/Data/*.txt     stat entries
    Public/<module>/Lists/*.lsx                    candidate lists
-/

namespace FeatLoom

structure PackageFile where
  path : String
  bytes : ByteArray

/-- Whether nothing in a text ends a line, a line feed at its very end apart. -/
def isOneLine (text : List Char) : Bool := text.dropLast.all (· ≠ '\n')

/-- The folder of the module that a file belongs to: the second of at least three parts. -/
def moduleFolder? (path : String) : Option String :=
  match path.toList.takeWhile (· ≠ '/'), path.toList.dropWhile (· ≠ '/') with
  | _ :: _, '/' :: inner =>
    match inner.takeWhile (· ≠ '/'), inner.dropWhile (· ≠ '/') with
    | c :: folder, '/' :: rest =>
      if isOneLine rest then some (String.ofList (c :: folder)) else none
    | _, _ => none
  | _, _ => none

inductive FileRole where
  | identity
  | feats
  | descriptions
  | stats
  | lists
  | other
  deriving DecidableEq, Inhabited

namespace FileRole

def statDirectory : String := "/stats/generated/data/"

def listDirectory (folder : String) : List Char :=
  "public/".toList ++ Text.lowerChars folder.toList ++ "/lists/".toList

/-- The role of a file in the folder of a module. Case does not matter. -/
def ofPath (folder path : String) : FileRole :=
  let place := FilePath.ofText path
  let lowered := Text.lowerChars path.toList
  match Text.lower place.name with
  | "meta.lsx" => identity
  | "feats.lsx" => feats
  | "featdescriptions.lsx" => descriptions
  | _ =>
    match Text.lower place.suffix with
    | ".txt" => if Text.holds statDirectory.toList lowered then stats else other
    | ".lsx" => if Text.holds (listDirectory folder) lowered then lists else other
    | _ => other

end FileRole

end FeatLoom
