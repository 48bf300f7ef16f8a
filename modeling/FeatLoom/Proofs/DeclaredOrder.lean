import FeatLoom.Build
import FeatLoom.Proofs.Discovery
import FeatLoom.Proofs.LoadOrder.Precedence
import FeatLoom.Proofs.Merge.Trimming
import FeatLoom.Proofs.Package.Declaration
import FeatLoom.Proofs.Xml.Plain
import Mathlib.Data.List.TakeWhile

/-!
# The order that declarations ask for

Modules go by the folders that their files lie in. A declared dependency asks for a module by name,
and it orders the two modules where this name is the folder of a module. A module whose folder is
not what it is named in its identity cannot be asked for.
-/

namespace FeatLoom

open LoadOrder

namespace Module

theorem mem_dependencies_ofSnapshots {name : String} {found : List Module} (populated : found ≠ [])
    {dependency : ModuleId} (each : ∀ s ∈ found, dependency ∈ s.dependencies) :
    dependency ∈ (ofSnapshots name found).dependencies := by
  have ordered := isByVersion found
  have lastSet : IsLastSet name (byVersion found) (ofSnapshots name found) :=
    isLastSet_foldl name ordered.ascending
  have inEach : ∀ needed ∈ (byVersion found).map dependencies, dependency ∈ needed := by
    intro needed member
    obtain ⟨s, inOrdered, rfl⟩ := List.mem_map.1 member
    exact each s (ordered.perm.mem_iff.1 inOrdered)
  have isSet : ((byVersion found).map dependencies).filter (fun d => !d.isEmpty) =
      (byVersion found).map dependencies := by
    rw [List.filter_eq_self]
    intro needed member
    cases needed with
    | nil => exact absurd (inEach [] member) List.not_mem_nil
    | cons first rest => rfl
  have nonempty : (byVersion found).map dependencies ≠ [] := by
    rw [ne_eq, List.map_eq_nil_iff]
    intro none
    exact populated (List.nil_perm.1 (none ▸ ordered.perm))
  rw [lastSet.dependencies_eq, isSet, List.getLast?_eq_some_getLast nonempty, Option.getD_some]
  exact inEach _ (List.getLast_mem nonempty)

end Module

namespace Build

open Yaml (Value)

def patternTexts (patterns : List Value) : List String :=
  (patterns.takeWhile fun pattern => (text? pattern).isSome).filterMap text?

def IsPackage (settings : Settings) (tree : FileTree) (package : FilePath × Location) : Prop :=
  ∃ installs patterns, settings.installs = .ok installs ∧ settings.patterns = .ok patterns ∧
    package ∈ installs.flatMap (tree.packages (patternTexts patterns))

theorem step_eq_ok {ε α : Type} {wrap : ε → BuildError} {first : Except ε α} {value : α}
    (ok : step wrap first = .ok value) : first = .ok value := by
  cases first with
  | error fault => cases ok
  | ok found =>
    cases ok
    rfl

theorem text_mem_of_mem_usableAnchors {names : List String} {values : List Value}
    {anchors : List String} (ok : usableAnchors names values = .ok anchors) {anchor : String}
    (member : anchor ∈ anchors) : .text anchor ∈ values := by
  induction values generalizing names anchors with
  | nil =>
    cases ok
    cases member
  | cons value values ih =>
    unfold usableAnchors at ok
    cases isText : text? value with
    | some name =>
      rw [isText] at ok
      dsimp only at ok
      cases rest : usableAnchors (names.filter (· ≠ name)) values with
      | error fault =>
        rw [rest] at ok
        cases ok
      | ok others =>
        rw [rest] at ok
        cases ok
        rcases List.mem_cons.1 member with rfl | inOthers
        · cases value <;> cases isText
          exact List.mem_cons_self
        · exact List.mem_cons_of_mem value (ih rest inOthers)
    | none =>
      rw [isText] at ok
      dsimp only at ok
      split at ok
      · exact List.mem_cons_of_mem value (ih ok member)
      · cases ok

section Gathered

variable [Nesting]

theorem gather_eq_ok {tree : FileTree} {patterns : List Value} {installs : List FilePath}
    {found : Snapshots} (ok : gather tree patterns installs = .ok found) :
    Snapshots.gather tree (patternTexts patterns) installs = .ok found := by
  obtain ⟨gathered, read, ok⟩ := exists_ok_of_bind ok
  split at ok
  · cases ok
  · next usable =>
    cases ok
    simp only [Bool.not_eq_true, Bool.not_eq_false', List.all_eq_true] at usable
    have whole := List.takeWhile_eq_self_iff.2 usable
    rw [whole] at read
    exact step_eq_ok read

theorem modules_eq_ok {settings : Settings} {tree : FileTree} {ordered : List Module}
    (ok : Build.modules settings tree = .ok ordered) :
    ∃ installs patterns found values anchors, settings.installs = .ok installs ∧
      settings.patterns = .ok patterns ∧
      Snapshots.gather tree (patternTexts patterns) installs = .ok found ∧
      settings.anchors = .ok values ∧ usableAnchors found.merge.keys values = .ok anchors ∧
      loadOrder found.merge anchors = .ok ordered := by
  obtain ⟨installs, hasInstalls, ok⟩ := exists_ok_of_bind ok
  obtain ⟨patterns, hasPatterns, ok⟩ := exists_ok_of_bind ok
  obtain ⟨found, gathered, ok⟩ := exists_ok_of_bind ok
  obtain ⟨anchors, hasAnchors, ok⟩ := exists_ok_of_bind ok
  obtain ⟨values, hasValues, usable⟩ := exists_ok_of_bind (step_eq_ok hasAnchors)
  exact ⟨installs, patterns, found, values, anchors, step_eq_ok hasInstalls,
    step_eq_ok hasPatterns, gather_eq_ok gathered, hasValues, usable, step_eq_ok ok⟩

def HoldsFolder (tree : FileTree) (place : Location) (folder : String) : Prop :=
  ∃ file ∈ (tree.packageFiles place).files, moduleFolder? file.path = some folder

/-- Whether a resource is read from an identity file of a folder, to its end. -/
def HasIdentity (tree : FileTree) (place : Location) (folder : String)
    (resource : Resource) : Prop :=
  ∃ file ∈ (tree.packageFiles place).files, moduleFolder? file.path = some folder ∧
    FileRole.ofPath folder file.path = .identity ∧ Resource.read file.bytes = .ok resource ∧
      ∀ m, ((Reading.identity resource).outcome m).1 = none

theorem holdsFolder_of_readPackage {tree : FileTree} {path : FilePath} {place : Location}
    {modules : OrderedMap String Module} (read : tree.readPackage path place = .ok modules)
    {folder : String} {m : Module} (held : modules.get? folder = some m) :
    HoldsFolder tree place folder := by
  rcases FileTree.readPackage_eq_ok read with rfl | ⟨contents, readFiles, rfl⟩
  · cases held
  · exact ((PackageContents.get?_read readFiles).1 held).1

theorem mem_dependencies_of_hasIdentity {tree : FileTree} {place : Location} {folder : String}
    {resource : Resource} (identity : HasIdentity tree place folder resource)
    {own dependency : ModuleId} (states : resource.States own) (isOwn : own.isValid = true)
    (asks : resource.AsksFor dependency) (valid : dependency.isValid = true) {path : FilePath}
    {modules : OrderedMap String Module} (read : tree.readPackage path place = .ok modules)
    {m : Module} (held : modules.get? folder = some m) : dependency ∈ m.dependencies := by
  rcases FileTree.readPackage_eq_ok read with rfl | ⟨contents, readFiles, rfl⟩
  · cases held
  · obtain ⟨_, rfl⟩ := (PackageContents.get?_read readFiles).1 held
    obtain ⟨file, inPackage, isFolder, role, parsed, faultless⟩ := identity
    refine Change.mem_dependencies_applyAll.2 (Or.inr ?_)
    refine List.mem_flatMap.2 ⟨file, inPackage, ?_⟩
    have ends : Step.fault? (Step.ofIdentity resource) = none := by
      have outcome := Reading.performs_identity resource default
      rw [Reading.PerformsFrom] at outcome
      rw [← faultless default, outcome]
    rw [PackageContents.changesIn, if_pos isFolder, role, Step.ofFile, parsed]
    exact Step.mem_made_of_faultless ends (Step.mem_ofIdentity states isOwn asks valid)

/-- A declared dependency orders modules by folder: a module whose folder lies in one package comes
after the module whose folder bears the name that its identity asks for. If no module has this
folder, the dependency is dropped. -/
theorem modules_declared_first {settings : Settings} {tree : FileTree} {ordered : List Module}
    (ok : Build.modules settings tree = .ok ordered) {folder : String} {place : Location}
    (alone : ∀ package, IsPackage settings tree package → HoldsFolder tree package.2 folder →
      package.2 = place)
    (isFree : ∀ values, settings.anchors = .ok values → .text folder ∉ values)
    {resource : Resource} (identity : HasIdentity tree place folder resource)
    {own dependency : ModuleId} (states : resource.States own) (isOwn : own.isValid = true)
    (asks : resource.AsksFor dependency) (valid : dependency.isValid = true) {name : String}
    (isNamed : dependency.name = some name) :
    ∀ before m after, ordered = before ++ m :: after → m.name = some folder →
      (name ∈ m.dependencyNames ↔ ∃ other ∈ ordered, other.name = some name) ∧
        ∀ other ∈ ordered, other.name = some name → other ∈ before := by
  intro before m after split isFolder
  obtain ⟨installs, patterns, found, values, anchors, hasInstalls, hasPatterns, gathered,
    hasValues, usable, loaded⟩ := modules_eq_ok ok
  have isOrdered := isOrdered_of_loadOrder Snapshots.named_merge loaded
  have listedOf {other : Module} (member : other ∈ ordered) {key : String}
      (isKey : other.name = some key) : found.merge.get? key = some other :=
    get?_of_mem_values Snapshots.named_merge (isOrdered.perm.mem_iff.1 member) isKey
  have inOrdered : m ∈ ordered := split ▸ List.mem_append_right before List.mem_cons_self
  have listed := listedOf inOrdered isFolder
  obtain ⟨snapshots, inFound, populated, merged⟩ :=
    Snapshots.mem_merge_iff.1 ((found.merge.get?_eq_some_iff ..).1 listed)
  -- Every snapshot of the folder is read from the one package and has the dependency.
  have each : ∀ s ∈ snapshots, dependency ∈ s.dependencies := by
    intro s member
    have inFolder : s ∈ found.foundAt folder := by
      rw [Snapshots.foundAt, (found.get?_eq_some_iff ..).2 inFound]
      exact member
    obtain ⟨package, inPackages, modules, read, held, _⟩ :=
      (Snapshots.mem_foundAt_gather gathered).1 inFolder
    obtain rfl : package.2 = place :=
      alone package ⟨installs, patterns, hasInstalls, hasPatterns, inPackages⟩
        (holdsFolder_of_readPackage read held)
    exact mem_dependencies_of_hasIdentity identity states isOwn asks valid read held
  have proper : dependency.properName? = some name := by
    rw [ModuleId.isValid, Bool.and_eq_true] at valid
    rw [ModuleId.properName?, isNamed] at valid ⊢
    obtain ⟨proper, found⟩ := Option.isSome_iff_exists.1 valid.2
    rw [found, ← (Option.filter_eq_some_iff.1 found).1]
  have depends : name ∈ m.dependencyNames ↔ name ∈ found.merge.keys := by
    have asked : name ∈ (Module.ofSnapshots folder snapshots).dependencyNames :=
      List.mem_filterMap.2
        ⟨dependency, Module.mem_dependencies_ofSnapshots populated each, proper⟩
    rw [merged, Module.dependencyNames_trimDependencies, List.mem_filter, List.contains_iff_mem]
    exact and_iff_right asked
  have known : name ∈ found.merge.keys ↔ ∃ other ∈ ordered, other.name = some name := by
    constructor
    · intro member
      obtain ⟨entry, inEntries, rfl⟩ := List.mem_map.1 member
      exact ⟨entry.2, isOrdered.perm.mem_iff.2 (List.mem_map_of_mem inEntries),
        Snapshots.named_merge entry inEntries⟩
    · rintro ⟨other, member, isKey⟩
      exact found.merge.mem_keys_of_get? (listedOf member isKey)
  refine ⟨depends.trans known, fun other member isKey => ?_⟩
  have notAnchor : folder ∉ anchors := fun isAnchor =>
    isFree values hasValues (text_mem_of_mem_usableAnchors usable isAnchor)
  have needs : Needs found.merge anchors folder name := by
    refine ⟨m, ?_, depends.2 (known.2 ⟨other, member, isKey⟩)⟩
    rw [get?_free, if_neg notAnchor, listed]
  exact isOrdered.mem_before Snapshots.named_merge split isFolder notAnchor
    (listedOf member isKey) (Or.inr (.single needs))

/-- The modules of a build for which one package is found. -/
theorem modules_of_package {settings : Settings} {tree : FileTree} {install path : FilePath}
    {place : Location} {held : OrderedMap String Module} {anchors : List String}
    {ordered : List Module} (installs : settings.installs = .ok [install])
    (patterns : settings.patterns = .ok [])
    (packages : [install].flatMap (tree.packages []) = [(path, place)])
    (read : tree.readPackage path place = .ok held)
    (anchored : (settings.anchors >>=
      usableAnchors (Snapshots.merge (Snapshots.addPackage .empty held)).keys) = .ok anchors)
    (loaded : loadOrder (Snapshots.merge (Snapshots.addPackage .empty held)) anchors =
      .ok ordered) : Build.modules settings tree = .ok ordered := by
  have found := Snapshots.gather_of_package packages read
  have gathered : gather tree [] [install] = .ok (Snapshots.addPackage .empty held) := by
    change (step .package (Snapshots.gather tree [] [install]) >>= _) = _
    rw [found]
    rfl
  rw [Build.modules, installs, patterns]
  change (gather tree [] [install] >>= _) = _
  rw [gathered]
  change (step .settings (settings.anchors >>= usableAnchors _) >>= _) = _
  rw [anchored]
  change step .order (loadOrder _ anchors) = _
  rw [loaded]
  rfl

end Gathered

/-! ## A module in a folder of another name

A package has three modules. Main asks for Root and for Extra, and the folder of what is named Extra
in its identity is Side. -/

namespace Sample

def describe (number : Nat) (name : String) : ModuleId :=
  { id := Guid.ofNat number, name := some name, version := ⟨1⟩ }

def identityOfMain : PackageFile where
  path := "Mods/Main/meta.lsx"
  bytes := String.toUTF8 "<region id='Config'><node><children><node id='ModuleInfo'>
    <attribute id='UUID' value='00000000000000000000000000000001'/>
    <attribute id='Name' value='Main'/><attribute id='Version64' value='1'/></node>
    <node id='Dependencies'><children><node id='ModuleShortDesc'>
    <attribute id='UUID' value='00000000000000000000000000000002'/>
    <attribute id='Name' value='Root'/><attribute id='Version64' value='1'/></node>
    <node id='ModuleShortDesc'>
    <attribute id='UUID' value='00000000000000000000000000000003'/>
    <attribute id='Name' value='Extra'/><attribute id='Version64' value='1'/></node>
    </children></node></children></node></region>"

def identityOfRoot : PackageFile where
  path := "Mods/Root/meta.lsx"
  bytes := String.toUTF8 "<region id='Config'><node><children><node id='ModuleInfo'>
    <attribute id='UUID' value='00000000000000000000000000000002'/>
    <attribute id='Name' value='Root'/><attribute id='Version64' value='1'/></node>
    </children></node></region>"

def identityOfSide : PackageFile where
  path := "Mods/Side/meta.lsx"
  bytes := String.toUTF8 "<region id='Config'><node><children><node id='ModuleInfo'>
    <attribute id='UUID' value='00000000000000000000000000000003'/>
    <attribute id='Name' value='Extra'/><attribute id='Version64' value='1'/></node>
    </children></node></region>"

def lists (path : String) : PackageFile where
  path
  bytes := String.toUTF8 "<region id='PassiveLists'/>"

def files : List PackageFile :=
  [identityOfMain, identityOfRoot, identityOfSide, lists "Public/Main/Lists/lists.lsx",
    lists "Public/Root/Lists/lists.lsx", lists "Public/Side/Lists/lists.lsx"]

def tree : FileTree :=
  let addModule (tree : FileTree) (folder : String) (identity : PackageFile) : FileTree :=
    let withIdentity := tree.addFile ["Pack", "Mods", folder, "meta.lsx"] identity.bytes
    withIdentity.addFile ["Pack", "Public", folder, "Lists", "lists.lsx"] (lists "").bytes
  addModule (addModule (addModule {} "Main" identityOfMain) "Root" identityOfRoot)
    "Side" identityOfSide

def settings : Settings :=
  { (default : Settings) with
    installPaths := Settings.texts ["Pack"]
    packagePatterns := Settings.texts []
    anchorModules := Settings.texts ["Shared"] }

def held : OrderedMap String Module :=
  let read (own : ModuleId) (dependencies : List ModuleId) : Module :=
    { own with package := some "Pack", dependencies, lists := .ofList [(.passive, .empty)] }
  .ofList [("Main", read (describe 1 "Main") [describe 2 "Root", describe 3 "Extra"]),
    ("Root", read (describe 2 "Root") []), ("Side", read (describe 3 "Extra") [])]

def merged (own : ModuleId) (dependencies : List ModuleId) : Module :=
  { own with dependencies, lists := .ofList [(.passive, .empty)] }

def root : Module := merged (describe 2 "Root") []

def main : Module := merged (describe 1 "Main") [describe 2 "Root"]

def side : Module := merged (describe 3 "Side") []

set_option maxRecDepth 8192 in
theorem steps_identityOfMain : Step.ofFile .identity identityOfMain.bytes =
    [Change.setId (Guid.ofNat 1), .setName "Main", .setVersion ⟨1⟩,
      .addDependency (describe 2 "Root"), .addDependency (describe 3 "Extra")].map .ok := by
  have parsed : Xml.read identityOfMain.bytes = _ := Xml.read_ofList (by rfl)
  rw [Step.ofFile, Resource.read, parsed]
  decide +kernel

set_option maxRecDepth 8192 in
theorem steps_identityOfRoot : Step.ofFile .identity identityOfRoot.bytes =
    [Change.setId (Guid.ofNat 2), .setName "Root", .setVersion ⟨1⟩].map .ok := by
  have parsed : Xml.read identityOfRoot.bytes = _ := Xml.read_ofList (by rfl)
  rw [Step.ofFile, Resource.read, parsed]
  decide +kernel

set_option maxRecDepth 8192 in
theorem steps_identityOfSide : Step.ofFile .identity identityOfSide.bytes =
    [Change.setId (Guid.ofNat 3), .setName "Extra", .setVersion ⟨1⟩].map .ok := by
  have parsed : Xml.read identityOfSide.bytes = _ := Xml.read_ofList (by rfl)
  rw [Step.ofFile, Resource.read, parsed]
  decide +kernel

theorem steps_lists (path : String) :
    Step.ofFile .lists (lists path).bytes = [Change.openCategory .passive].map .ok := by
  have parsed : Xml.read (lists path).bytes = _ := Xml.read_ofList (by rfl)
  rw [Step.ofFile, Resource.read, parsed]
  rfl

theorem read_files : PackageContents.read "Pack" files = .ok { modules := held } := by
  have readFile (folder : String) {file : PackageFile} {role : FileRole} {changes : List Change}
      (steps : Step.ofFile role file.bytes = changes.map .ok)
      (place : moduleFolder? file.path = some folder)
      (isRole : FileRole.ofPath folder file.path = role) (contents : PackageContents) :=
    PackageContents.readFile_of_faultless "Pack" contents place isRole steps
  have main := readFile "Main" steps_identityOfMain (by decide) (by decide)
  have root := readFile "Root" steps_identityOfRoot (by decide) (by decide)
  have side := readFile "Side" steps_identityOfSide (by decide) (by decide)
  have ofMain := readFile "Main" (steps_lists "Public/Main/Lists/lists.lsx") (by decide) (by decide)
  have ofRoot := readFile "Root" (steps_lists "Public/Root/Lists/lists.lsx") (by decide) (by decide)
  have ofSide := readFile "Side" (steps_lists "Public/Side/Lists/lists.lsx") (by decide) (by decide)
  rw [PackageContents.read, files]
  simp only [List.foldlM_cons, List.foldlM_nil, main, root, side, ofMain, ofRoot, ofSide]
  rfl

def places : List Location :=
  [["Pack", "Mods"], ["Pack", "Mods", "Main"], ["Pack", "Mods", "Main", "meta.lsx"],
    ["Pack", "Mods", "Root"], ["Pack", "Mods", "Root", "meta.lsx"],
    ["Pack", "Mods", "Side"], ["Pack", "Mods", "Side", "meta.lsx"], ["Pack", "Public"],
    ["Pack", "Public", "Main"], ["Pack", "Public", "Main", "Lists"],
    ["Pack", "Public", "Main", "Lists", "lists.lsx"],
    ["Pack", "Public", "Root"], ["Pack", "Public", "Root", "Lists"],
    ["Pack", "Public", "Root", "Lists", "lists.lsx"],
    ["Pack", "Public", "Side"], ["Pack", "Public", "Side", "Lists"],
    ["Pack", "Public", "Side", "Lists", "lists.lsx"]]

theorem below_tree : tree.below ["Pack"] = places :=
  FileTree.below_eq_of_perm (by decide) (by decide)

set_option maxRecDepth 8192 in
theorem packageFiles_tree : tree.packageFiles ["Pack"] = { files } := by
  rw [FileTree.packageFiles, if_pos (by rfl), FileTree.filesBelow, below_tree]
  rfl

theorem packages_tree : [FilePath.ofText "Pack"].flatMap (tree.packages []) =
    [(FilePath.ofText "Pack", ["Pack"])] := by
  have located : tree.locate? (FilePath.ofText "Pack") = some ["Pack"] := by rfl
  rw [List.flatMap_singleton, FileTree.packages, located]
  dsimp only
  rw [below_tree]
  rfl

theorem modules_tree : Build.modules settings tree = .ok [root, main, side] := by
  have path : (FilePath.ofText "Pack").toText = "Pack" := by rfl
  have read : PackageContents.read (FilePath.ofText "Pack").toText files =
      .ok { modules := held } := by
    rw [path, read_files]
  exact modules_of_package rfl rfl packages_tree
    (FileTree.readPackage_of_files packageFiles_tree read) rfl (by decide +kernel)

theorem exists_hasIdentity {file : PackageFile} {folder : String} {changes : List Change}
    (member : file ∈ files) (place : moduleFolder? file.path = some folder)
    (role : FileRole.ofPath folder file.path = .identity)
    (steps : Step.ofFile .identity file.bytes = changes.map .ok) {holds : Resource → Prop}
    (checked : ∃ resource ∈ (Resource.read file.bytes).toOption, holds resource) :
    ∃ resource, HasIdentity tree ["Pack"] folder resource ∧ holds resource := by
  obtain ⟨resource, inRead, checked⟩ := checked
  have parsed : Resource.read file.bytes = .ok resource := by
    cases whole : Resource.read file.bytes with
    | error fault =>
      rw [whole] at inRead
      cases inRead
    | ok other =>
      rw [whole] at inRead
      cases inRead
      rfl
  have faultless (m : Module) : ((Reading.identity resource).outcome m).1 = none := by
    have outcome := Reading.performs_identity resource m
    rw [Step.ofFile, parsed, Step.after] at steps
    rw [Reading.PerformsFrom, steps, Step.fault?_map_ok] at outcome
    rw [outcome]
  have inPackage : file ∈ (tree.packageFiles ["Pack"]).files := by
    rw [packageFiles_tree]
    exact member
  exact ⟨resource, ⟨file, inPackage, place, role, parsed, faultless⟩, checked⟩

set_option maxRecDepth 8192 in
theorem exists_identity_main : ∃ resource, HasIdentity tree ["Pack"] "Main" resource ∧
    resource.States (describe 1 "Main") ∧ resource.AsksFor (describe 2 "Root") ∧
      resource.AsksFor (describe 3 "Extra") := by
  refine exists_hasIdentity (List.mem_cons_self : identityOfMain ∈ files) (by decide) (by decide)
    steps_identityOfMain ?_
  have parsed : Xml.read identityOfMain.bytes = _ := Xml.read_ofList (by rfl)
  rw [Resource.read, parsed]
  decide +kernel

set_option maxRecDepth 8192 in
theorem exists_identity_side : ∃ resource, HasIdentity tree ["Pack"] "Side" resource ∧
    resource.States (describe 3 "Extra") := by
  have member : identityOfSide ∈ files :=
    List.mem_cons_of_mem _ (List.mem_cons_of_mem _ List.mem_cons_self)
  refine exists_hasIdentity member (by decide) (by decide) steps_identityOfSide ?_
  have parsed : Xml.read identityOfSide.bytes = _ := Xml.read_ofList (by rfl)
  rw [Resource.read, parsed]
  decide +kernel

end Sample

open Sample

/-- Main comes after Root, which lies in the folder that Main asks for. -/
theorem modules_declared_first_root :
    ∃ resource, Build.modules settings tree = .ok [root, main, side] ∧
      (∀ package, IsPackage settings tree package → HoldsFolder tree package.2 "Main" →
        package.2 = ["Pack"]) ∧
      (∀ values, settings.anchors = .ok values → .text "Main" ∉ values) ∧
      HasIdentity tree ["Pack"] "Main" resource ∧ resource.States (describe 1 "Main") ∧
      resource.AsksFor (describe 2 "Root") ∧ "Root" ∈ main.dependencyNames ∧ root ∈ [root] := by
  obtain ⟨resource, identity, states, asks, _⟩ := exists_identity_main
  have alone : ∀ package, IsPackage settings tree package → HoldsFolder tree package.2 "Main" →
      package.2 = ["Pack"] := by
    rintro package ⟨installs, patterns, hasInstalls, hasPatterns, member⟩ _
    cases hasInstalls
    cases hasPatterns
    have only : package ∈ [FilePath.ofText "Pack"].flatMap (tree.packages []) := member
    rw [packages_tree, List.mem_singleton] at only
    rw [only]
  have isFree : ∀ values, settings.anchors = .ok values → .text "Main" ∉ values := by
    intro values hasValues member
    cases hasValues
    obtain ⟨anchor, isAnchor, same⟩ := List.mem_map.1 member
    cases same
    exact absurd isAnchor (by decide)
  have first := modules_declared_first modules_tree alone isFree identity states (by decide) asks
    (by decide) rfl [root] main [side] rfl rfl
  exact ⟨resource, modules_tree, alone, isFree, identity, states, asks,
    first.1.2 ⟨root, List.mem_cons_self, rfl⟩, first.2 root List.mem_cons_self rfl⟩

/-- What is named Extra has the folder Side, and it comes after Main, which asks for it. -/
theorem modules_misses_other_folder :
    ∃ ofMain ofSide, HasIdentity tree ["Pack"] "Main" ofMain ∧
      HasIdentity tree ["Pack"] "Side" ofSide ∧ ofMain.States (describe 1 "Main") ∧
      ofMain.AsksFor (describe 3 "Extra") ∧ ofSide.States (describe 3 "Extra") ∧
      (describe 1 "Main").isValid = true ∧ (describe 3 "Extra").isValid = true ∧
      main.name = some "Main" ∧ side.name = some "Side" ∧
      Build.modules settings tree = .ok [root, main, side] := by
  obtain ⟨ofMain, identity, states, _, asks⟩ := exists_identity_main
  obtain ⟨ofSide, other, statesOther⟩ := exists_identity_side
  exact ⟨ofMain, ofSide, identity, other, states, asks, statesOther, by decide, by decide, rfl, rfl,
    modules_tree⟩

end Build

end FeatLoom
