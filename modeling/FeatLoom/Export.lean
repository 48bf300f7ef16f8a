import FeatLoom.FileTree
import FeatLoom.JsonText
import FeatLoom.Weaving.Loom

/-!
# Exporting a fabric

A fabric is exported to a directory as a file of boosts and a file of spells for each module, and
one file with the wiring. All file names begin with a common mark, and the files that bear the mark
from an earlier export are removed first.
-/

namespace FeatLoom

structure ExportOptions where
  directory : FilePath := FilePath.ofText "generated"
  mark : String := "E6_Gen_"
  removePrevious : Bool := true
  indent : Option Int := some 2
  emptyName : String := ""

structure Exported where
  written : List FilePath := []
  removed : List FilePath := []

namespace Export

def filePath (options : ExportOptions) (name : String) : FilePath :=
  options.directory ++ FilePath.ofText (options.mark ++ name)

def entryFiles (options : ExportOptions) (kind : String)
    (entries : OrderedMap String (List StatEntry)) : List (FilePath × String) :=
  entries.entries.map fun entry =>
    (filePath options (entry.1 ++ "_" ++ kind ++ ".txt"), StatEntry.fileText entry.2)

def tierText (tier : Tier) : JsonText :=
  .object (tier.entries.map fun entry => (entry.1, .list (entry.2.map .text)))

def wiringText (options : ExportOptions) (wiring : Wiring) : JsonText :=
  .object (wiring.view.map fun entry =>
    (if entry.1 = "" then options.emptyName else entry.1, .list (entry.2.map tierText)))

def files (options : ExportOptions) (fabric : Fabric) : List (FilePath × String) :=
  entryFiles options "Boosts" fabric.boosts ++ entryFiles options "Shouts" fabric.spells ++
    [(filePath options "Wiring.json", (wiringText options fabric.wiring).render options.indent)]

def removePrevious (options : ExportOptions) (place : Location) :
    FileAction FileError (List FilePath) := do
  let tree ← get
  let found ← ofExcept (tree.glob options.directory place (options.mark ++ "*"))
  found.forM fun entry => FileAction.remove entry.2
  return found.map Prod.fst

def prepare (options : ExportOptions) : FileAction FileError (List FilePath) := do
  let place ← FileAction.makeDirectories options.directory
  if options.removePrevious then removePrevious options place else return []

def write (options : ExportOptions) (fabric : Fabric) : FileAction FileError (List FilePath) := do
  let all := files options fabric
  all.forM fun file => FileAction.writeText file.1 file.2
  return all.map Prod.fst

end Export

/-- How an export ended: its result, the fabric, whose wiring it prunes before it writes, and the
files. -/
structure ExportRun where
  result : Except FileError Exported
  fabric : Fabric
  tree : FileTree

def Fabric.exportTo (fabric : Fabric) (options : ExportOptions) (tree : FileTree) : ExportRun :=
  match (Export.prepare options).run.run tree with
  | (.error fault, changed) => ⟨.error fault, fabric, changed⟩
  | (.ok removed, cleared) =>
    let pruned := fabric.prune
    match (Export.write options pruned).run.run cleared with
    | (.error fault, changed) => ⟨.error fault, pruned, changed⟩
    | (.ok written, changed) => ⟨.ok { written, removed }, pruned, changed⟩

end FeatLoom
