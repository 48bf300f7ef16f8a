import FeatLoom.Export
import FeatLoom.LoadOrder
import FeatLoom.Merge
import FeatLoom.Settings

/-!
# Building

A build gathers the packages below the install paths, merges and orders their modules, weaves all
feats with overriding modules first, and exports the fabric. It changes files only in the export,
which comes last, so a build that fails earlier leaves all files as they were.
-/

namespace FeatLoom

inductive BuildError where
  | settings (fault : SettingsError)
  | file (fault : FileError)
  | order (fault : LoadOrderError)
  | weave (fault : WeaveError)
  | package (fault : PackageError)
  deriving DecidableEq

structure BuildSummary where
  loadOrder : List String
  feats : Nat
  spells : Nat
  boosts : Nat
  exported : Exported

namespace Build

open Yaml (Value)

def text? : Value → Option String
  | .text text => some text
  | _ => none

def step {ε α : Type} (wrap : ε → BuildError) : Except ε α → Except BuildError α
  | .ok value => .ok value
  | .error fault => .error (wrap fault)

def hasUnmatchedFile (tree : FileTree) (patterns : List String) (install : FilePath) : Bool :=
  match tree.locate? install with
  | none => false
  | some place =>
    (tree.below place).any fun other =>
      !tree.isDirectory other &&
        !patterns.any fun pattern => FileTree.matchesPattern pattern (other.getLast?.getD "")

/-- The snapshots below the install paths. A pattern that is no text ends the search where a file is
compared with it. -/
def gather [Nesting] (tree : FileTree) (patterns : List Value) (installs : List FilePath) :
    Except BuildError Snapshots := do
  let texts := (patterns.takeWhile fun pattern => (text? pattern).isSome).filterMap text?
  let isUsable (install : FilePath) : Bool :=
    texts.length == patterns.length || !hasUnmatchedFile tree texts install
  let found ← step .package (Snapshots.gather tree texts (installs.takeWhile isUsable))
  if !installs.all isUsable then
    throw (.settings (match patterns[texts.length]? with
      | some (.binary _) => .wrongType "package_patterns"
      | _ => .patternNotText))
  return found

/-- The anchors that can be names of modules. A list or a mapping cannot be looked up among the
modules that are left, unless none is. -/
def usableAnchors : List String → List Value → Except SettingsError (List String)
  | _, [] => .ok []
  | names, anchor :: rest =>
    match text? anchor with
    | some name => (usableAnchors (names.filter (· ≠ name)) rest).map (name :: ·)
    | none =>
      if anchor.isKey || names.isEmpty then usableAnchors names rest
      else .error (.wrongType "anchor_modules")

def modules [Nesting] (settings : Settings) (tree : FileTree) :
    Except BuildError (List Module) := do
  let installs ← step .settings settings.installs
  let patterns ← step .settings settings.patterns
  let merged := (← gather tree patterns installs).merge
  let anchors ← step .settings (settings.anchors >>= usableAnchors merged.keys)
  step .order (loadOrder merged anchors)

/-- The loom for modules in load order. A base spell that is no text is none. -/
def loom [Nesting] (settings : Settings) (modules : List Module) : Except BuildError Loom := do
  let limit ← step .settings settings.limit
  let base := (text? settings.baseSpell).getD ""
  return { modules := modules.reverse, base, limit, depth := Nesting.picks }

def weave (settings : Settings) (loom : Loom) : Except BuildError Fabric := do
  if !settings.baseSpell.isKey && !loom.featIds.isEmpty then
    throw (.settings (.wrongType "base_spell_container"))
  let run := loom.weave {}
  match run.fault with
  | some fault => throw (.weave fault)
  | none => return run.fabric

def baseLabel : Value → String
  | .null => "null"
  | .bool value => if value then "true" else "false"
  | value => value.shown

def exportOptions (settings : Settings) (output : Option FilePath) :
    Except BuildError ExportOptions := do
  let directory ← match output with
    | some path => pure path
    | none => step .settings settings.output
  return { directory, mark := settings.fileMark.shown, emptyName := baseLabel settings.baseSpell }

def hasUsableBase (settings : Settings) : Bool :=
  (text? settings.baseSpell).isSome || settings.baseSpell.isBlank

/-- The fabric of a build, the options of its export, and the modules in load order. -/
structure Plan where
  modules : List Module
  loom : Loom
  fabric : Fabric
  options : ExportOptions

def plan [Nesting] (settings : Settings) (output : Option FilePath) (tree : FileTree) :
    Except BuildError Plan := do
  let modules ← modules settings tree
  let loom ← loom settings modules
  let fabric ← weave settings loom
  let options ← exportOptions settings output
  return { modules, loom, fabric, options }

def summary (plan : Plan) (exported : Exported) : BuildSummary where
  loadOrder := plan.modules.map fun m => m.shownName
  feats := plan.loom.featIds.length
  spells := plan.fabric.spellCount
  boosts := plan.fabric.boostCount
  exported := exported

def finish (settings : Settings) (plan : Plan) (tree : FileTree) :
    Except BuildError BuildSummary × FileTree :=
  if hasUsableBase settings || plan.fabric.spellCount = 0 then
    let run := plan.fabric.exportTo plan.options tree
    match run.result with
    | .ok exported => (.ok (summary plan exported), run.tree)
    | .error fault => (.error (.file fault), run.tree)
  else
    match (Export.prepare plan.options).run.run tree with
    | (.error fault, changed) => (.error (.file fault), changed)
    | (.ok _, changed) => (.error (.settings (.wrongType "base_spell_container")), changed)

end Build

def build [Nesting] (settings : Settings) (output : Option FilePath) (tree : FileTree) :
    Except BuildError BuildSummary × FileTree :=
  match Build.plan settings output tree with
  | .error fault => (.error fault, tree)
  | .ok plan => Build.finish settings plan tree

end FeatLoom
