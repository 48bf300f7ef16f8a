import FeatLoom.Proofs.Discovery
import FeatLoom.Proofs.OrderedMap.Gather
import FeatLoom.Proofs.Package.Contents
import FeatLoom.Proofs.Xml.Nested

/-!
# Modules and files apart

Whatever a document says, a fault in it makes its file skipped and nothing more; reading a package
ends early only at a document in an unknown encoding, and at one that nests its nodes too deep. The
snapshot of a module folder comes from the files of this folder alone, so packages that agree on
these files agree on the snapshot.
-/

namespace FeatLoom

namespace ReadError

def isOfContent : ReadError → Bool
  | missingAttribute .. | notGuid _ | notInteger _ | missingRegion _ | missingChild _ => true
  | malformed | unknownEncoding | wideEncoding | foreignEncoding | partialEncoding | tooDeep => false

theorem isCaught_of_isOfContent {fault : ReadError} (ofContent : fault.isOfContent = true) :
    fault.isCaught = true := by
  cases fault with
  | unknownEncoding | tooDeep => cases ofContent
  | _ => rfl

end ReadError

/-! ## Faults of the content -/

/-- A result that is missing for the content of a document only. -/
def DependsOnContent {α : Type} (result : Except ReadError α) : Prop :=
  ∀ fault, result = .error fault → fault.isOfContent = true

section Content

variable {α β : Type}

theorem dependsOnContent_ok (value : α) : DependsOnContent (.ok value) := nofun

theorem DependsOnContent.bind {first : Except ReadError α} {next : α → Except ReadError β}
    (head : DependsOnContent first) (rest : ∀ value, DependsOnContent (next value)) :
    DependsOnContent (first >>= next) := by
  cases first with
  | error fault =>
    rintro _ ⟨⟩
    exact head fault rfl
  | ok value => exact rest value

theorem DependsOnContent.map {first : Except ReadError α} (head : DependsOnContent first)
    (f : α → β) : DependsOnContent (first.map f) := by
  cases first with
  | error fault =>
    rintro _ ⟨⟩
    exact head fault rfl
  | ok value => exact dependsOnContent_ok (f value)

variable (node : Resource.Node) (name : String)

theorem dependsOnContent_require : DependsOnContent (node.require name) := by
  unfold Resource.Node.require
  split
  · exact dependsOnContent_ok _
  · rintro _ ⟨⟩
    rfl

theorem dependsOnContent_requireGuid : DependsOnContent (node.requireGuid name) := by
  refine (dependsOnContent_require node name).bind fun text => ?_
  unfold Resource.Node.toGuid
  split
  · exact dependsOnContent_ok _
  · rintro _ ⟨⟩
    rfl

theorem dependsOnContent_requireInteger : DependsOnContent (node.requireInteger name) := by
  refine (dependsOnContent_require node name).bind fun text => ?_
  unfold Resource.Node.toInteger
  split
  · exact dependsOnContent_ok _
  · rintro _ ⟨⟩
    rfl

theorem dependsOnContent_moduleId : DependsOnContent (ModuleId.ofNode node) := by
  apply (dependsOnContent_requireGuid node "UUID").bind
  intro id
  apply (dependsOnContent_require node "Name").bind
  intro name
  apply (dependsOnContent_requireInteger node "Version64").bind
  intro version
  exact dependsOnContent_ok _

theorem dependsOnContent_feat : DependsOnContent (Feat.ofNode node) := by
  apply (dependsOnContent_requireGuid node "UUID").bind
  intro id
  apply (dependsOnContent_require node "Name").bind
  intro name
  exact dependsOnContent_ok _

theorem dependsOnContent_reference :
    DependsOnContent ((node.require name).bind FeatDescription.readReference) := by
  refine (dependsOnContent_require node name).bind fun text => ?_
  unfold FeatDescription.readReference
  split
  · exact dependsOnContent_ok _
  · rintro _ ⟨⟩
    rfl

theorem dependsOnContent_description : DependsOnContent (FeatDescription.ofNode node) := by
  apply (dependsOnContent_requireGuid node "FeatId").bind
  intro feat
  apply (dependsOnContent_reference node "DisplayName").bind
  intro displayName
  apply (dependsOnContent_reference node "Description").bind
  intro description
  exact dependsOnContent_ok _

end Content

namespace Step

def DependOnContent (steps : List Step) : Prop := ∀ step ∈ steps, DependsOnContent step

theorem dependOnContent_after {α : Type} {first : Except ReadError α} {steps : α → List Step}
    (head : DependsOnContent first) (rest : ∀ value, DependOnContent (steps value)) :
    DependOnContent (after first steps) := by
  cases first with
  | error fault =>
    intro step member
    obtain rfl := List.mem_singleton.1 member
    rintro _ ⟨⟩
    exact head fault rfl
  | ok value => exact rest value

theorem dependOnContent_cons {step : Step} {steps : List Step} (head : DependsOnContent step)
    (rest : DependOnContent steps) : DependOnContent (step :: steps) :=
  List.forall_mem_cons.2 ⟨head, rest⟩

theorem dependOnContent_flatMap {α : Type} {items : List α} {steps : α → List Step}
    (each : ∀ item, DependOnContent (steps item)) : DependOnContent (items.flatMap steps) := by
  intro step member
  obtain ⟨item, _, inSteps⟩ := List.mem_flatMap.1 member
  exact each item step inSteps

theorem dependOnContent_map {α : Type} {items : List α} {step : α → Step}
    (each : ∀ item, DependsOnContent (step item)) : DependOnContent (items.map step) := by
  intro _ member
  obtain ⟨item, _, rfl⟩ := List.mem_map.1 member
  exact each item

theorem dependOnContent_nil : DependOnContent [] := nofun

theorem dependOnContent_identity (resource : Resource) :
    DependOnContent (ofIdentity resource) := by
  unfold ofIdentity
  split
  · exact dependOnContent_cons (by rintro _ ⟨⟩; rfl) dependOnContent_nil
  · next config _ =>
    split
    · exact dependOnContent_cons (by rintro _ ⟨⟩; rfl) dependOnContent_nil
    · next info _ =>
      apply dependOnContent_after (dependsOnContent_requireGuid info "UUID")
      intro id
      apply dependOnContent_cons (dependsOnContent_ok _)
      apply dependOnContent_after (dependsOnContent_require info "Name")
      intro name
      apply dependOnContent_cons (dependsOnContent_ok _)
      apply dependOnContent_after (dependsOnContent_requireInteger info "Version64")
      intro version
      apply dependOnContent_cons (dependsOnContent_ok _)
      split
      · apply dependOnContent_flatMap
        intro node
        apply dependOnContent_after (dependsOnContent_moduleId node)
        intro dependency
        split
        · exact dependOnContent_cons (dependsOnContent_ok _) dependOnContent_nil
        · exact dependOnContent_nil
      · exact dependOnContent_nil

theorem dependOnContent_feats (resource : Resource) : DependOnContent (ofFeats resource) :=
  dependOnContent_flatMap fun _ =>
    dependOnContent_map fun node => (dependsOnContent_feat node).map _

theorem dependOnContent_descriptions (resource : Resource) :
    DependOnContent (ofDescriptions resource) :=
  dependOnContent_flatMap fun _ =>
    dependOnContent_map fun node => (dependsOnContent_description node).map _

theorem dependOnContent_lists (resource : Resource) : DependOnContent (ofLists resource) := by
  apply dependOnContent_flatMap
  intro kind
  apply dependOnContent_flatMap
  intro region
  apply dependOnContent_cons (dependsOnContent_ok _)
  apply dependOnContent_flatMap
  intro node
  apply dependOnContent_after (dependsOnContent_require node _)
  intro text
  exact dependOnContent_cons ((dependsOnContent_requireGuid node "UUID").map _) dependOnContent_nil

theorem mem_of_fault? {steps : List Step} {fault : ReadError} (faulty : fault? steps = some fault) :
    .error fault ∈ steps := by
  obtain ⟨rest, whole⟩ := eq_made_append_of_fault faulty
  rw [whole]
  simp

theorem isCaught_of_content {steps : List Step} (content : DependOnContent steps)
    {fault : ReadError} (faulty : fault? steps = some fault) : fault.isCaught = true :=
  ReadError.isCaught_of_isOfContent (content _ (mem_of_fault? faulty) fault rfl)

end Step

/-! ## What ends the reading -/

namespace FileRole

def isDocument : FileRole → Bool
  | identity | feats | descriptions | lists => true
  | stats | other => false

end FileRole

namespace PackageFile

def isIn (folder : String) (file : PackageFile) : Bool := moduleFolder? file.path == some folder

end PackageFile

section Legible

variable [Nesting]

/-- Bytes that are in a known encoding and nest their nodes no deeper than calls may nest, as far as
they are a document. -/
structure Resource.IsLegible (bytes : ByteArray) : Prop where
  encoding : Xml.read bytes ≠ .error .unknownEncoding
  depth : ∀ root, Xml.read bytes = .ok root → Resource.depth root ≤ Nesting.nodes

/-- A file that is legible if it is a document of a module. -/
def PackageFile.IsLegible (file : PackageFile) : Prop :=
  ∀ folder, moduleFolder? file.path = some folder →
    (FileRole.ofPath folder file.path).isDocument = true → Resource.IsLegible file.bytes

theorem Resource.isLegible_iff (bytes : ByteArray) :
    IsLegible bytes ↔ ∀ fault, Resource.read bytes = .error fault → fault.isCaught = true := by
  constructor
  · rintro ⟨encoding, depth⟩ fault failed
    unfold Resource.read at failed
    split at failed
    · next root isRoot =>
      rw [if_pos (depth root isRoot)] at failed
      cases failed
    all_goals
      cases failed
      first | rfl | contradiction
  · intro caught
    refine ⟨fun unknown => ?_, fun root isRoot => ?_⟩
    · have failed : Resource.read bytes = .error .unknownEncoding := by rw [Resource.read, unknown]
      cases caught _ failed
    · by_contra deep
      have failed : Resource.read bytes = .error .tooDeep := by
        rw [Resource.read, isRoot]
        exact if_neg deep
      cases caught _ failed

namespace Step

theorem forall_isCaught_after_iff (bytes : ByteArray) {steps : Resource → List Step}
    (content : ∀ resource, DependOnContent (steps resource)) :
    (∀ fault, fault? (after (Resource.read bytes) steps) = some fault → fault.isCaught = true) ↔
      Resource.IsLegible bytes := by
  rw [Resource.isLegible_iff]
  cases Resource.read bytes with
  | error fault => simp [after, fault?]
  | ok resource =>
    have caught : ∀ fault, fault? (steps resource) = some fault → fault.isCaught = true :=
      fun _ => isCaught_of_content (content resource)
    simpa [after] using caught

/-- A file ends the reading of its package if and only if it is a document that is not legible. -/
theorem forall_isCaught_ofFile_iff (role : FileRole) (bytes : ByteArray) :
    (∀ fault, fault? (ofFile role bytes) = some fault → fault.isCaught = true) ↔
      (role.isDocument = true → Resource.IsLegible bytes) := by
  have ofDocument {holds : Prop} (isDocument : role.isDocument = true) :
      holds ↔ (role.isDocument = true → holds) := (imp_iff_right isDocument).symm
  cases role with
  | identity =>
    exact (forall_isCaught_after_iff bytes dependOnContent_identity).trans (ofDocument rfl)
  | feats => exact (forall_isCaught_after_iff bytes dependOnContent_feats).trans (ofDocument rfl)
  | descriptions =>
    exact (forall_isCaught_after_iff bytes dependOnContent_descriptions).trans (ofDocument rfl)
  | lists => exact (forall_isCaught_after_iff bytes dependOnContent_lists).trans (ofDocument rfl)
  | stats =>
    have faultless : DependOnContent (ofStats bytes) :=
      dependOnContent_map fun entry => dependsOnContent_ok (Change.setStat entry)
    exact iff_of_true (fun _ => isCaught_of_content faultless) nofun
  | other => exact iff_of_true nofun nofun

end Step

end Legible

namespace PackageContents

open Step

section Files

variable [Nesting]

theorem exists_readFile_iff (package : String) (contents : PackageContents) (file : PackageFile) :
    (∃ after, readFile package contents file = .ok after) ↔ file.IsLegible := by
  unfold PackageFile.IsLegible
  cases place : moduleFolder? file.path with
  | none => simp [readFile, place]
  | some folder =>
    have legible := forall_isCaught_ofFile_iff (FileRole.ofPath folder file.path) file.bytes
    rw [readFile_eq place]
    simp only [Option.some.injEq, forall_eq', ← legible]
    generalize ofFile (FileRole.ofPath folder file.path) file.bytes = steps
    cases fault? steps with
    | none => simp
    | some fault => cases caught : fault.isCaught <;> simp [caught]

theorem exists_foldlM_iff (package : String) (start : PackageContents) (files : List PackageFile) :
    (∃ contents, files.foldlM (readFile package) start = .ok contents) ↔
      ∀ file ∈ files, file.IsLegible := by
  induction files generalizing start with
  | nil => exact ⟨fun _ => nofun, fun _ => ⟨start, rfl⟩⟩
  | cons file files ih =>
    rw [List.forall_mem_cons, ← exists_readFile_iff package start, List.foldlM_cons]
    constructor
    · rintro ⟨contents, read⟩
      obtain ⟨next, first, read⟩ := exists_ok_of_bind read
      exact ⟨⟨next, first⟩, (ih next).1 ⟨contents, read⟩⟩
    · rintro ⟨⟨next, first⟩, legible⟩
      rw [first]
      exact (ih next).2 legible

end Files

/-! ## What a snapshot depends on -/

end PackageContents

theorem Change.applyAll_package (m : Module) (package : Option String) (changes : List Change) :
    applyAll { m with package } changes = { applyAll m changes with package } := by
  induction changes generalizing m with
  | nil => rfl
  | cons change changes ih =>
    have same : apply { m with package } change = { apply m change with package } := by
      cases change <;> rfl
    unfold applyAll at ih ⊢
    rw [List.foldl_cons, List.foldl_cons, same, ih]

namespace PackageContents

theorem exists_isIn_iff (folder : String) (files : List PackageFile) :
    (∃ file ∈ files, moduleFolder? file.path = some folder) ↔
      files.filter (PackageFile.isIn folder) ≠ [] := by
  simp [List.filter_eq_nil_iff, PackageFile.isIn]

section Snapshot

variable [Nesting]

theorem flatMap_changesIn (folder : String) (files : List PackageFile) :
    files.flatMap (changesIn folder) =
      (files.filter (PackageFile.isIn folder)).flatMap (changesIn folder) := by
  refine (OrderedMap.flatMap_filter fun file _ outside => ?_).symm
  unfold changesIn
  rw [if_neg]
  simpa [PackageFile.isIn] using outside

/-- Two packages with the same files in a module folder have the same snapshot of it, apart from the
name of the package. -/
theorem get?_read_congr {package other folder : String} {files others : List PackageFile}
    {contents otherContents : PackageContents} (read : read package files = .ok contents)
    (otherRead : PackageContents.read other others = .ok otherContents)
    (same : files.filter (PackageFile.isIn folder) = others.filter (PackageFile.isIn folder)) :
    otherContents.modules.get? folder =
      (contents.modules.get? folder).map fun m => { m with package := some other } := by
  apply Option.ext
  intro m
  rw [get?_read otherRead, Option.map_eq_some_iff, exists_isIn_iff, flatMap_changesIn, ← same,
    ← flatMap_changesIn, ← exists_isIn_iff]
  simp only [get?_read read]
  constructor
  · rintro ⟨present, rfl⟩
    refine ⟨_, ⟨present, rfl⟩, ?_⟩
    exact (Change.applyAll_package ..).symm
  · rintro ⟨_, ⟨present, rfl⟩, rfl⟩
    exact ⟨present, (Change.applyAll_package ..).symm⟩

/-- Reading a package ends with its snapshots if and only if every document in it is legible; this
is also how directories and archives are read that can be loaded. The snapshot of a module folder
depends on the files of this folder only: any other package that has the same ones, whatever stands
between them, has the same snapshot apart from the name of the package. -/
theorem read_isolates (package : String) (files : List PackageFile) :
    ((∃ contents, read package files = .ok contents) ↔ ∀ file ∈ files, file.IsLegible) ∧
      ∀ contents, read package files = .ok contents →
        (∀ (tree : FileTree) (path : FilePath) (place : Location), path.toText = package →
          tree.packageFiles place = { files } →
            tree.readPackage path place = .ok contents.modules) ∧
        ∀ other others otherContents, read other others = .ok otherContents → ∀ folder,
          files.filter (PackageFile.isIn folder) = others.filter (PackageFile.isIn folder) →
            otherContents.modules.get? folder =
              (contents.modules.get? folder).map fun m => { m with package := some other } := by
  refine ⟨exists_foldlM_iff package {} files, fun contents ended => ⟨?_, ?_⟩⟩
  · rintro tree path place rfl loaded
    rw [FileTree.readPackage, loaded, ended]
    rfl
  · intro other others otherContents otherEnded folder same
    exact get?_read_congr ended otherEnded same

end Snapshot

set_option maxRecDepth 4096 in
/-- A directory in which a broken identity of another module stands before a stat file. -/
theorem read_isolates_beside_broken :
    let broken : PackageFile := ⟨"Mods/Side/meta.lsx", String.toUTF8 "<region"⟩
    let stats : PackageFile :=
      ⟨"Public/Main/Stats/Generated/Data/Feats.txt", String.toUTF8 "new entry \"Gift\"\n"⟩
    let tree : FileTree :=
      (({} : FileTree).addFile ["Pack", "Mods", "Side", "meta.lsx"] broken.bytes).addFile
        ["Pack", "Public", "Main", "Stats", "Generated", "Data", "Feats.txt"] stats.bytes
    (∀ file ∈ [broken, stats], file.IsLegible) ∧
      ∃ contents otherContents, read "Pack" [broken, stats] = .ok contents ∧
        tree.readPackage (FilePath.ofText "Pack") ["Pack"] = .ok contents.modules ∧
        read "Other" [stats] = .ok otherContents ∧
        (contents.modules.get? "Main").isSome = true ∧
        otherContents.modules.get? "Main" =
          (contents.modules.get? "Main").map fun m => { m with package := some "Other" } := by
  intro broken stats tree
  have parsed : Xml.read broken.bytes = .error .malformed :=
    (Xml.read_ofList (by rfl)).trans (by rfl)
  have legible : ∀ file ∈ [broken, stats], file.IsLegible := by
    rw [List.forall_mem_cons, List.forall_mem_singleton]
    refine ⟨fun folder _ _ => ?_, fun folder place isDocument => ?_⟩
    · rw [Resource.isLegible_iff, Resource.read, parsed]
      rintro fault ⟨⟩
      rfl
    · obtain rfl : folder = "Main" := by
        have inMain : moduleFolder? stats.path = some "Main" := by decide
        exact Option.some.inj (place.symm.trans inMain)
      exact absurd isDocument (by decide)
  have below : tree.below ["Pack"] = [["Pack", "Mods"], ["Pack", "Mods", "Side"],
      ["Pack", "Mods", "Side", "meta.lsx"], ["Pack", "Public"], ["Pack", "Public", "Main"],
      ["Pack", "Public", "Main", "Stats"], ["Pack", "Public", "Main", "Stats", "Generated"],
      ["Pack", "Public", "Main", "Stats", "Generated", "Data"],
      ["Pack", "Public", "Main", "Stats", "Generated", "Data", "Feats.txt"]] :=
    FileTree.below_eq_of_perm (by decide) (by decide)
  have loaded : tree.packageFiles ["Pack"] = { files := [broken, stats] } := by
    rw [FileTree.packageFiles, if_pos (by rfl), FileTree.filesBelow, below]
    rfl
  obtain ⟨ends, isolated⟩ := read_isolates "Pack" [broken, stats]
  obtain ⟨contents, ended⟩ := ends.2 legible
  obtain ⟨otherContents, otherEnded⟩ := (read_isolates "Other" [stats]).1.2 (by
    exact fun file member => legible file (List.mem_cons_of_mem broken member))
  obtain ⟨held, alike⟩ := isolated contents ended
  have inMain : stats.isIn "Main" = true := by decide
  have outside : broken.isIn "Main" = false := by decide
  refine ⟨legible, contents, otherContents, ended, ?_, otherEnded, ?_, ?_⟩
  · exact held tree (FilePath.ofText "Pack") ["Pack"] (by rfl) loaded
  · rw [Option.isSome_iff_exists]
    exact ⟨_, (get?_read ended).2 ⟨⟨stats, by simp, by decide⟩, rfl⟩⟩
  · exact alike "Other" [stats] otherContents otherEnded "Main" (by simp [inMain, outside])

def nestedFile (levels : Nat) : PackageFile where
  path := "Public/Main/Feats/Feats.lsx"
  bytes := (String.ofList (Xml.nestedDocument levels)).toUTF8

theorem xmlRead_nestedFile (levels : Nat) :
    Xml.read (nestedFile levels).bytes = .ok (Xml.nestedRoot levels) :=
  Xml.read_nestedDocument levels

theorem read_nestedFile [Nesting] (package : String) {levels : Nat}
    (deep : Nesting.nodes ≤ levels) :
    read package [nestedFile levels] = .error (.file .tooDeep) := by
  have place : moduleFolder? (nestedFile levels).path = some "Main" :=
    (by decide : moduleFolder? "Public/Main/Feats/Feats.lsx" = some "Main")
  have role : FileRole.ofPath "Main" (nestedFile levels).path = .feats :=
    (by decide : FileRole.ofPath "Main" "Public/Main/Feats/Feats.lsx" = .feats)
  have steps : Step.ofFile .feats (nestedFile levels).bytes = [.error .tooDeep] := by
    rw [Step.ofFile, nestedFile, Resource.read_nestedDocument deep]
    rfl
  rw [read, List.foldlM_cons, readFile_eq place, role, steps]
  rfl

/-- A well-formed document ends the reading of its package where it nests its nodes too deep. -/
theorem read_ends_at_deep_document :
    ∃ root, Xml.read (nestedFile 3000).bytes = .ok root ∧
      read "Pack" [nestedFile 3000] = .error (.file .tooDeep) :=
  ⟨Xml.nestedRoot 3000, xmlRead_nestedFile 3000, read_nestedFile "Pack" (by decide)⟩

end PackageContents

end FeatLoom
