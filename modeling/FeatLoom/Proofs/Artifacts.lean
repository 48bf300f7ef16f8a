import FeatLoom.Proofs.DeclaredOrder
import FeatLoom.Proofs.Export
import FeatLoom.Proofs.Weaving.Accounting
import FeatLoom.Proofs.Weaving.Limit

/-!
# What a build touches

All that a build changes, it changes in its export. So a build that fails for the order of its
modules or in weaving leaves every file as it was, and one that succeeds replaces the marked files
in its output directory by files for the modules that have boosts or spells, and touches no other.
-/

namespace FeatLoom

/-! ## Woven fabrics -/

theorem Module.unslashed_normalizedName (m : Module) : '/' ∉ m.normalizedName.toList := by
  rw [normalizedName, normalizeName, String.toList_ofList, List.mem_map]
  rintro ⟨c, _, slash⟩
  split at slash
  · next alphanumeric =>
    rw [slash] at alphanumeric
    exact absurd alphanumeric (by decide)
  · exact absurd slash (by decide)

namespace Fabric

/-- The modules of a fabric are those with entries, and their names are single names. -/
structure HasNamedModules (fabric : Fabric) : Prop where
  boosts : ∀ module, module ∈ fabric.boosts.keys ↔ fabric.boostsOf module ≠ []
  spells : ∀ module, module ∈ fabric.spells.keys ↔ fabric.spellsOf module ≠ []
  unslashed : ∀ module ∈ fabric.boosts.keys ++ fabric.spells.keys, '/' ∉ module.toList

end Fabric

theorem Loom.hasNamedModules_weave {loom : Loom} (ended : (loom.weave {}).fault = none) :
    (loom.weave {}).fabric.HasNamedModules where
  boosts module := by
    rw [Fabric.boostsOf, boosts_weave]
    exact OrderedMap.mem_keys_appendAll_empty_iff
  spells module := by
    rw [Fabric.spellsOf, spells_weave]
    exact OrderedMap.mem_keys_appendAll_empty_iff
  unslashed := by
    rw [List.forall_mem_append, boosts_weave, spells_weave]
    have unslashed {feat : Feat} {spot : Weaving.Spot} {path : List Nat} {node : Woven}
        (isNode : Weaving.IsNodeAt feat spot path node) : '/' ∉ node.spell.module.toList := by
      rw [isNode.module]
      exact Module.unslashed_normalizedName _
    constructor
    · intro module member
      rw [OrderedMap.mem_keys_appendAll, OrderedMap.keys_empty] at member
      obtain ⟨granted, inBoosts, rfl⟩ :=
        List.mem_map.1 (member.resolve_left List.not_mem_nil)
      obtain ⟨node, inNodes, grants⟩ := List.mem_filterMap.1 inBoosts
      obtain ⟨feat, spot, path, isNode⟩ := exists_isNodeAt ended node inNodes
      rw [(isNode.boost granted grants).1]
      exact unslashed isNode
    · intro module member
      rw [OrderedMap.mem_keys_appendAll, OrderedMap.keys_empty, List.map_map] at member
      obtain ⟨node, inNodes, rfl⟩ := List.mem_map.1 (member.resolve_left List.not_mem_nil)
      obtain ⟨feat, spot, path, isNode⟩ := exists_isNodeAt ended node inNodes
      exact unslashed isNode

/-! ## The steps of a build -/

def BuildError.comesBeforeExport : BuildError → Bool
  | .order _ | .weave _ | .package _ => true
  | .settings _ | .file _ => false

namespace Build

variable {settings : Settings} {output : Option FilePath} {tree : FileTree}

theorem plan_eq_ok_iff [Nesting] {planned : Plan} : plan settings output tree = .ok planned ↔
    Build.modules settings tree = .ok planned.modules ∧
      Build.loom settings planned.modules = .ok planned.loom ∧
        Build.weave settings planned.loom = .ok planned.fabric ∧
          exportOptions settings output = .ok planned.options := by
  constructor
  · intro ok
    obtain ⟨modules, ordered, ok⟩ := exists_ok_of_bind ok
    obtain ⟨loom, strung, ok⟩ := exists_ok_of_bind ok
    obtain ⟨fabric, woven, ok⟩ := exists_ok_of_bind ok
    obtain ⟨options, chosen, ok⟩ := exists_ok_of_bind ok
    obtain rfl := Except.ok.inj ok
    exact ⟨ordered, strung, woven, chosen⟩
  · rintro ⟨ordered, strung, woven, chosen⟩
    simp only [plan, bind, Except.bind, ordered, strung, woven, chosen]
    rfl

theorem weave_eq_ok {loom : Loom} {fabric : Fabric} (ok : weave settings loom = .ok fabric) :
    (loom.weave {}).fault = none ∧ (loom.weave {}).fabric = fabric := by
  unfold weave at ok
  split at ok
  · cases ok
  · dsimp only at ok
    split at ok
    · cases ok
    · next ended => exact ⟨ended, Except.ok.inj ok⟩

structure AreExportOptions (settings : Settings) (output : Option FilePath)
    (options : ExportOptions) : Prop where
  mark : options.mark = settings.fileMark.shown
  clears : options.removePrevious = true
  own : ∀ directory ∈ output, options.directory = directory
  usual : output = none → settings.output = .ok options.directory

theorem areExportOptions_of_ok {options : ExportOptions}
    (ok : exportOptions settings output = .ok options) :
    AreExportOptions settings output options := by
  cases output with
  | some path =>
    obtain rfl := Except.ok.inj ok
    exact ⟨rfl, rfl, fun _ => Option.some.inj, nofun⟩
  | none =>
    obtain ⟨directory, chosen, ok⟩ := exists_ok_of_bind ok
    obtain rfl := Except.ok.inj ok
    exact ⟨rfl, rfl, nofun, fun _ => step_eq_ok chosen⟩

theorem finish_eq_ok {planned : Plan} {summary : BuildSummary} {after : FileTree}
    (ok : finish settings planned tree = (.ok summary, after)) :
    ∃ pruned, planned.fabric.exportTo planned.options tree =
      ⟨.ok summary.exported, pruned, after⟩ := by
  unfold finish at ok
  split at ok
  · dsimp only at ok
    split at ok
    · next exported ended =>
      cases ok
      generalize planned.fabric.exportTo planned.options tree = run at ended
      obtain ⟨result, pruned, changed⟩ := run
      obtain rfl := ended
      exact ⟨pruned, rfl⟩
    · cases ok
  · split at ok <;> cases ok

theorem finish_of_exportTo {planned : Plan} {exported : Exported} {pruned : Fabric}
    {after : FileTree} (usable : hasUsableBase settings = true)
    (ran : planned.fabric.exportTo planned.options tree = ⟨.ok exported, pruned, after⟩) :
    finish settings planned tree = (.ok (summary planned exported), after) := by
  rw [finish, usable, Bool.true_or, if_pos rfl, ran]

theorem comesBeforeExport_finish {planned : Plan} {fault : BuildError}
    (failed : (finish settings planned tree).1 = .error fault) :
    fault.comesBeforeExport = false := by
  unfold finish at failed
  split at failed
  · dsimp only at failed
    split at failed
    · cases failed
    · cases failed
      rfl
  · split at failed
    · cases failed
      rfl
    · cases failed
      rfl

end Build

/-- A build that fails before its export changes nothing. One that succeeds changes marked files of
its output directory only: those before are removed, those after are the files of the fabric, and
another export of the fabric as it then is leads to the same files. -/
theorem build_touches_artifacts_only [Nesting] (settings : Settings) (output : Option FilePath)
    (tree : FileTree) (usable : Export.IsUsableMark settings.fileMark.shown) :
    (∀ fault after, build settings output tree = (.error fault, after) →
        fault.comesBeforeExport → after = tree) ∧
      ∀ summary after, build settings output tree = (.ok summary, after) →
        ∃ planned pruned place, Build.plan settings output tree = .ok planned ∧
          Build.AreExportOptions settings output planned.options ∧
          planned.fabric.HasNamedModules ∧
          planned.fabric.exportTo planned.options tree = ⟨.ok summary.exported, pruned, after⟩ ∧
          Export.IsExported planned.options planned.fabric place tree after summary.exported ∧
          ∃ removed, pruned.exportTo planned.options after =
            ⟨.ok { summary.exported with removed }, pruned, after⟩ := by
  unfold build
  cases ok : Build.plan settings output tree with
  | error fault =>
    refine ⟨fun other after ended _ => (Prod.mk.inj ended).2.symm, fun summary after ended => ?_⟩
    cases ended
  | ok planned =>
    refine ⟨fun fault after ended early => ?_, fun summary after ended => ?_⟩
    · have late := Build.comesBeforeExport_finish (congrArg Prod.fst ended)
      rw [late] at early
      cases early
    · obtain ⟨_, _, woven, chosen⟩ := Build.plan_eq_ok_iff.1 ok
      obtain ⟨faultless, fabric⟩ := Build.weave_eq_ok woven
      have options := Build.areExportOptions_of_ok chosen
      have named : planned.fabric.HasNamedModules :=
        fabric ▸ Loom.hasNamedModules_weave faultless
      obtain ⟨pruned, ran⟩ := Build.finish_eq_ok ended
      rw [← options.mark] at usable
      obtain ⟨⟨place, isExported⟩, again⟩ :=
        Export.isExported_exportTo usable options.clears named.unslashed ran
      exact ⟨planned, pruned, place, rfl, options, named, ran, isExported, again⟩

/-! ## A feat in an output directory

A package has one module with one feat, and the output directory holds a file of an earlier build
and one that bears no mark. -/

namespace Build.Gift

def feats : PackageFile where
  path := "Public/Root/Feats/Feats.lsx"
  bytes := String.toUTF8 "<region id='Feats'><node><children><node id='Feat'>
    <attribute id='UUID' value='00000000000000000000000000000004'/>
    <attribute id='Name' value='Gift'/></node></children></node></region>"

def files : List PackageFile := [Sample.identityOfRoot, feats]

def tree : FileTree :=
  let identity := Sample.identityOfRoot.bytes
  let package := FileTree.addFile {} ["Pack", "Mods", "Root", "meta.lsx"] identity
  let withFeats := package.addFile ["Pack", "Public", "Root", "Feats", "Feats.lsx"] feats.bytes
  let earlier := withFeats.addFile ["out", "E6_Gen_Old_Boosts.txt"] .empty
  earlier.addFile ["out", "notes.txt"] (String.toUTF8 "Keep these.")

def settings (limit : Int) : Settings :=
  { Sample.settings with
    outputPath := .text "out"
    baseSpell := .text "Base"
    fileMark := .text "E6_Gen_"
    maxLeaves := .int limit }

def gift : Feat := { id := Guid.ofNat 4, name := "Gift" }

def root : Module := { Sample.describe 2 "Root" with feats := [gift] }

def held : OrderedMap String Module := .ofList [("Root", { root with package := some "Pack" })]

set_option maxRecDepth 8192 in
theorem steps_feats : Step.ofFile .feats feats.bytes = [Change.addFeat gift].map .ok := by
  have parsed : Xml.read feats.bytes = _ := Xml.read_ofList (by rfl)
  rw [Step.ofFile, Resource.read, parsed]
  decide +kernel

theorem read_files : PackageContents.read "Pack" files = .ok { modules := held } := by
  have ofIdentity : moduleFolder? Sample.identityOfRoot.path = some "Root" := by decide
  have ofFeats : moduleFolder? feats.path = some "Root" := by decide
  have identity (contents : PackageContents) := PackageContents.readFile_of_faultless "Pack"
    contents ofIdentity (by decide) Sample.steps_identityOfRoot
  have feat (contents : PackageContents) := PackageContents.readFile_of_faultless "Pack"
    contents ofFeats (by decide) steps_feats
  rw [PackageContents.read, files]
  simp only [List.foldlM_cons, List.foldlM_nil, identity, feat]
  rfl

theorem below_tree : tree.below ["Pack"] =
    [["Pack", "Mods"], ["Pack", "Mods", "Root"], ["Pack", "Mods", "Root", "meta.lsx"],
      ["Pack", "Public"], ["Pack", "Public", "Root"], ["Pack", "Public", "Root", "Feats"],
      ["Pack", "Public", "Root", "Feats", "Feats.lsx"]] :=
  FileTree.below_eq_of_perm (by decide) (by decide)

set_option maxRecDepth 8192 in
theorem modules_tree (limit : Int) : Build.modules (settings limit) tree = .ok [root] := by
  have found : tree.packageFiles ["Pack"] = { files } := by
    rw [FileTree.packageFiles, if_pos (by rfl), FileTree.filesBelow, below_tree]
    rfl
  have packages : [FilePath.ofText "Pack"].flatMap (tree.packages []) =
      [(FilePath.ofText "Pack", ["Pack"])] := by
    have located : tree.locate? (FilePath.ofText "Pack") = some ["Pack"] := by rfl
    rw [List.flatMap_singleton, FileTree.packages, located]
    dsimp only
    rw [below_tree]
    rfl
  have path : (FilePath.ofText "Pack").toText = "Pack" := by rfl
  have read : PackageContents.read (FilePath.ofText "Pack").toText files =
      .ok { modules := held } := by
    rw [path, read_files]
  exact modules_of_package rfl rfl packages (FileTree.readPackage_of_files found read) rfl
    (by decide +kernel)

def loom (limit : Int) : Loom := { modules := [root], base := "Base", limit }

def options : ExportOptions := { directory := FilePath.ofText "out", emptyName := "Base" }

def planned : Plan := ⟨[root], loom 1, ((loom 1).weave {}).fabric, options⟩

theorem plan_tree : Build.plan (settings 1) none tree = .ok planned :=
  plan_eq_ok_iff.2 ⟨modules_tree 1, rfl, rfl, rfl⟩

theorem plan_limited :
    Build.plan (settings 0) none tree = .error (.weave (.limitExceeded 0 "Gift")) := by
  have strung : Build.loom (settings 0) [root] = .ok (loom 0) := rfl
  have woven : Build.weave (settings 0) (loom 0) = .error (.weave (.limitExceeded 0 "Gift")) := rfl
  simp only [plan, bind, Except.bind, modules_tree, strung, woven]

theorem isUsableMark : Export.IsUsableMark options.mark where
  plain := by decide
  unslashed := by decide

theorem exists_build : ∃ summary after, build (settings 1) none tree = (.ok summary, after) := by
  have made : (FileAction.makeDirectories options.directory).Yields tree ["out"] tree := rfl
  obtain ⟨removed, _, removing⟩ := Export.yields_removePrevious isUsableMark ["out"] tree
  have prepared := (Export.yields_prepare rfl).2 ⟨_, _, made, (removing _ _).2 ⟨rfl, rfl⟩⟩
  have wrote : ((Export.write options planned.fabric.prune).run.run
      (tree.withoutMarked options.mark ["out"])).1.isOk = true := by
    decide +kernel
  obtain ⟨written, after, wrote⟩ := FileAction.exists_yields_of_isOk wrote
  have ran := Export.exportTo_of_yields prepared wrote
  refine ⟨summary planned { written, removed }, after, ?_⟩
  rw [build, plan_tree]
  exact finish_of_exportTo rfl ran

end Build.Gift

open Build.Gift in
/-- At a limit of nothing the build fails and leaves all files. At a limit of one it takes out the
file of the earlier build and leaves the unmarked one. -/
theorem build_touches_artifacts_only_gift :
    Export.IsUsableMark (settings 0).fileMark.shown ∧
      Export.IsUsableMark (settings 1).fileMark.shown ∧
      build (settings 0) none tree = (.error (.weave (.limitExceeded 0 "Gift")), tree) ∧
      ∃ summary after, build (settings 1) none tree = (.ok summary, after) ∧
        summary.exported.written = ["out/E6_Gen_Root_Boosts.txt", "out/E6_Gen_Root_Shouts.txt",
          "out/E6_Gen_Wiring.json"].map FilePath.ofText ∧
        (∀ path, path ∈ summary.exported.removed ↔
          path = FilePath.ofText "out/E6_Gen_Old_Boosts.txt") ∧
        after.files.get? ["out", "notes.txt"] = some (String.toUTF8 "Keep these.") := by
  obtain ⟨summary, after, built⟩ := exists_build
  refine ⟨isUsableMark, isUsableMark, ?_, summary, after, built, ?_⟩
  · have failed : build (settings 0) none tree =
        (.error (.weave (.limitExceeded 0 "Gift")), (build (settings 0) none tree).2) := by
      unfold build
      rw [plan_limited]
    have same := (build_touches_artifacts_only (settings 0) none tree isUsableMark).1 _ _ failed rfl
    rw [same] at failed
    exact failed
  · obtain ⟨known, _, place, isPlan, _, _, _, exported, _⟩ :=
      (build_touches_artifacts_only (settings 1) none tree isUsableMark).2 summary after built
    obtain rfl : planned = known := Except.ok.inj (plan_tree.symm.trans isPlan)
    obtain rfl : ["out"] = place := Option.some.inj (exported.located ▸ rfl)
    have marked : ∀ other ∈ tree.files.keys, FileTree.isMarked "E6_Gen_" ["out"] other ↔
        other = ["out", "E6_Gen_Old_Boosts.txt"] := by
      decide
    refine ⟨?_, fun path => ?_, ?_⟩
    · rw [exported.written]
      rfl
    · rw [exported.removed]
      constructor
      · rintro ⟨other, isFile, isMarked, rfl⟩
        obtain rfl := (marked other ((tree.files.contains_iff other).1 isFile)).1 isMarked
        rfl
      · rintro rfl
        exact ⟨["out", "E6_Gen_Old_Boosts.txt"], by decide⟩
    · rw [exported.untouched _ (by decide)]
      rfl

end FeatLoom
