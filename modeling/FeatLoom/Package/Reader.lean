import FeatLoom.Module
import FeatLoom.Package.Archive
import FeatLoom.Resource.OfXml
import FeatLoom.StatEntry.Reader
import FeatLoom.Text.Utf8

/-!
# Reading packages

Every file changes the snapshot of the module that it belongs to. A file that turns out to be
unreadable is noted as skipped and ends there: what it changed before the fault stays, and the
other files of the package are still read. Only a document in an unknown encoding, or one that nests
its nodes too deep, ends the reading of the whole package.
-/

namespace FeatLoom

inductive PackageError where
  | archive (fault : ArchiveError)
  | file (fault : ReadError)
  deriving DecidableEq

/-- A change to a snapshot that may fail on the way. The changes made before a failure stay. -/
abbrev Reading := ExceptT ReadError (StateM Module)

namespace Reading

/-- Reads identity and dependencies. Only the first group of dependencies counts, and of it the
valid ones. -/
def identity (resource : Resource) : Reading Unit := do
  let some config := resource.region? "Config" | throw (.missingRegion "Config")
  let some info := (config.childrenNamed "ModuleInfo").head? | throw (.missingChild "ModuleInfo")
  let id ← ofExcept (info.requireGuid "UUID")
  modify fun m => { m with id }
  let name ← ofExcept (info.require "Name")
  modify fun m => { m with name := some name }
  let version ← ofExcept (info.requireInteger "Version64")
  modify fun m => { m with version := ⟨version⟩ }
  if (← get).isValid then
    let groups := (config.childrenNamed "Dependencies").take 1
    (groups.flatMap fun group => group.childrenNamed "ModuleShortDesc").forM fun node => do
      let dependency ← ofExcept (ModuleId.ofNode node)
      if dependency.isValid then
        modify fun m => { m with dependencies := m.dependencies ++ [dependency] }

def feats (resource : Resource) : Reading Unit := do
  if let some region := resource.region? "Feats" then
    (region.childrenNamed "Feat").forM fun node => do
      let feat ← ofExcept (Feat.ofNode node)
      modify fun m => { m with feats := m.feats ++ [feat] }

/-- Reads descriptions; the last one of a feat counts. -/
def descriptions (resource : Resource) : Reading Unit := do
  if let some region := resource.region? "FeatDescriptions" then
    (region.childrenNamed "FeatDescription").forM fun node => do
      let description ← ofExcept (FeatDescription.ofNode node)
      modify fun m =>
        { m with descriptions := m.descriptions.insert description.feat description }

structure ListLayout where
  region : String
  node : String
  items : String

def listLayout : ListKind → ListLayout
  | .passive => ⟨"PassiveLists", "PassiveList", "Passives"⟩
  | .ability => ⟨"AbilityLists", "AbilityList", "Abilities"⟩
  | .skill => ⟨"SkillLists", "SkillList", "Skills"⟩
  | .spell => ⟨"SpellLists", "SpellList", "Spells"⟩

/-- The candidates that a list node names, each once, in the order of their first occurrence. -/
def candidatesOf (text : String) : List String := (Text.itemsOf ',' text).eraseDups

def list (kind : ListKind) (node : Resource.Node) : Reading Unit := do
  let text ← ofExcept (node.require (listLayout kind).items)
  let id ← ofExcept (node.requireGuid "UUID")
  let place (present : Option (OrderedMap Guid (List String))) : OrderedMap Guid (List String) :=
    (present.getD OrderedMap.empty).insert id (candidatesOf text)
  modify fun m => { m with lists := m.lists.alter kind place }

/-- Reads candidate lists. A category counts as present from its region on, with or without
lists. -/
def lists (resource : Resource) : Reading Unit :=
  ListKind.all.forM fun kind => do
    if let some region := resource.region? (listLayout kind).region then
      modify fun m => { m with lists := m.lists.ensure kind OrderedMap.empty }
      (region.childrenNamed (listLayout kind).node).forM (list kind)

/-- Reads stat entries; the last one of a name counts. -/
def stats (bytes : ByteArray) : Reading Unit :=
  let named := (StatEntry.readAll (Text.decodeUtf8 bytes)).map fun entry => (entry.name, entry)
  modify fun m => { m with stats := m.stats.insertAll named }

def file [Nesting] (role : FileRole) (bytes : ByteArray) : Reading Unit := do
  match role with
  | .identity => identity (← ofExcept (Resource.read bytes))
  | .feats => feats (← ofExcept (Resource.read bytes))
  | .descriptions => descriptions (← ofExcept (Resource.read bytes))
  | .lists => lists (← ofExcept (Resource.read bytes))
  | .stats => stats bytes
  | .other => pure ()

def outcome (reading : Reading Unit) (m : Module) : Option ReadError × Module :=
  match reading.run.run m with
  | (.ok (), changed) => (none, changed)
  | (.error fault, changed) => (some fault, changed)

end Reading

/-- The snapshots of a package by module folder, and the paths of the files that were skipped. -/
structure PackageContents where
  modules : OrderedMap String Module := OrderedMap.empty
  skipped : List String := []

/-- Whether a fault makes its file skipped and nothing more. -/
def ReadError.isCaught : ReadError → Bool
  | .unknownEncoding | .tooDeep => false
  | _ => true

namespace PackageContents

/-- Reads one more file. The first file of a module opens its snapshot, which is named after the
folder until an identity says otherwise. -/
def readFile [Nesting] (package : String) (contents : PackageContents) (file : PackageFile) :
    Except PackageError PackageContents :=
  match moduleFolder? file.path with
  | none => .ok contents
  | some folder =>
    let snapshot := (contents.modules.get? folder).getD
      { name := some folder, package := some package }
    let (fault, changed) :=
      (Reading.file (FileRole.ofPath folder file.path) file.bytes).outcome snapshot
    let modules := contents.modules.insert folder changed
    match fault with
    | none => .ok { contents with modules }
    | some fault =>
      if fault.isCaught then .ok { modules, skipped := contents.skipped ++ [file.path] }
      else .error (.file fault)

def read [Nesting] (package : String) (files : List PackageFile) : Except PackageError PackageContents :=
  files.foldlM (readFile package) {}

end PackageContents

end FeatLoom
