import FeatLoom.Proofs.Discovery
import FeatLoom.Proofs.LoadOrder.Outcome
import FeatLoom.Proofs.Lookup
import FeatLoom.Proofs.Merge.Trimming
import FeatLoom.Proofs.Text.Items
import FeatLoom.Proofs.Xml.Plain

/-!
# Candidate lists from file to loom

A node of a list file names candidates, and all that is kept of it are these names, each once. What
is read or merged later replaces the list of an identifier as a whole or leaves it alone, so every
list that a look-up finds is the list of one node, however often its identifier was given.
-/

namespace FeatLoom

/-! ## The list of a node -/

/-- The names in a text: what stands between its commas, without the blanks at the ends, unless
nothing is left of it. -/
def namesIn (text : String) : List String :=
  ((text.toList.splitOn ',').map fun piece => String.ofList (Text.trim piece)).filter (· ≠ "")

structure IsCleanName (name : String) : Prop where
  ne_empty : name ≠ ""
  trimmed : Text.trim name.toList = name.toList
  whole : ',' ∉ name.toList

/-- The candidates are the names in a text, each once, in the order of their first occurrence. -/
structure ListsNames (text : String) (candidates : List String) : Prop where
  nodup : candidates.Nodup
  mem_iff : ∀ name, name ∈ candidates ↔ name ∈ namesIn text
  ordered : candidates.Pairwise fun first second =>
    (namesIn text).idxOf first < (namesIn text).idxOf second

theorem isCleanName_of_mem_namesIn {text name : String} (member : name ∈ namesIn text) :
    IsCleanName name := by
  obtain ⟨among, something⟩ := List.mem_filter.1 member
  obtain ⟨piece, inText, rfl⟩ := List.mem_map.1 among
  refine ⟨of_decide_eq_true something, ?_, ?_⟩
  · rw [String.toList_ofList, Text.trim_trim]
  · rw [String.toList_ofList]
    exact fun comma => Text.not_mem_of_mem_splitOn inText (Text.mem_of_mem_trim comma)

theorem itemsOf_eq_namesIn (text : String) : Text.itemsOf ',' text = namesIn text := by
  have texts (pieces : List (List Char)) :
      (pieces.filter fun item => !item.isEmpty).map String.ofList =
        (pieces.map String.ofList).filter (· ≠ "") := by
    rw [List.filter_map]
    congr 1
    apply List.filter_congr
    rintro (_ | ⟨c, rest⟩) _ <;> simp
  rw [Text.itemsOf, Text.items, Text.splitOn_singleton, texts, List.map_map]
  rfl

theorem listsNames_candidatesOf (text : String) :
    ListsNames text (Reading.candidatesOf text) := by
  rw [Reading.candidatesOf, itemsOf_eq_namesIn]
  exact ⟨OrderedMap.nodup_eraseDups _, fun name => List.mem_eraseDups,
    OrderedMap.pairwise_idxOf_eraseDups _⟩

/-! ## What changes do to a list -/

namespace Change

def candidates? (kind : ListKind) (id : Guid) : Change → Option (List String)
  | setList own list candidates => if own = kind ∧ list = id then some candidates else none
  | _ => none

theorem candidates?_apply (m : Module) (change : Change) (kind : ListKind) (id : Guid) :
    (change.apply m).candidates? kind id =
      (change.candidates? kind id).or (m.candidates? kind id) := by
  cases change with
  | openCategory own =>
    change ((m.lists.ensure own OrderedMap.empty).get? kind).bind _ = m.candidates? kind id
    rw [OrderedMap.ensure, OrderedMap.get?_alter, Module.candidates?]
    by_cases same : own = kind
    · subst same
      rw [if_pos rfl]
      cases m.lists.get? own <;> rfl
    · rw [if_neg same]
  | setList own list candidates =>
    change ((m.lists.alter own _).get? kind).bind _ = _
    rw [OrderedMap.get?_alter, Module.candidates?, candidates?]
    by_cases same : own = kind
    · subst same
      rw [if_pos rfl, Option.bind_some, OrderedMap.get?_insert]
      by_cases again : list = id
      · rw [if_pos again, if_pos ⟨rfl, again⟩]
        rfl
      · rw [if_neg again, if_neg fun both => again both.2]
        cases m.lists.get? own <;> rfl
    · rw [if_neg same, if_neg fun both => same both.1]
      rfl
  | _ => rfl

theorem candidates?_applyAll (m : Module) (changes : List Change) (kind : ListKind) (id : Guid) :
    (applyAll m changes).candidates? kind id =
      (changes.filterMap (candidates? kind id)).getLast?.or (m.candidates? kind id) := by
  induction changes using List.reverseRecOn with
  | nil => rfl
  | append_singleton changes change ih =>
    rw [applyAll_append, List.filterMap_append]
    change (change.apply (applyAll m changes)).candidates? kind id = _
    rw [candidates?_apply, ih]
    cases put : change.candidates? kind id with
    | none => simp [put]
    | some candidates => simp [put]

theorem eq_setList {change : Change} {kind : ListKind} {id : Guid} {candidates : List String}
    (put : change.candidates? kind id = some candidates) :
    change = setList kind id candidates := by
  cases change with
  | setList own list others =>
    rw [candidates?] at put
    split at put
    · next same =>
      obtain ⟨rfl, rfl⟩ := same
      rw [Option.some.inj put]
    · cases put
  | _ => cases put

end Change

/-! ## Where a list is written -/

/-- A node of a resource holds a list under an identifier of a category, and this is the text of
its names. -/
def Resource.WritesList (resource : Resource) (kind : ListKind) (id : Guid)
    (text : String) : Prop :=
  ∃ region ∈ resource.region? (Reading.listLayout kind).region,
    ∃ node ∈ region.childrenNamed (Reading.listLayout kind).node,
      node.require (Reading.listLayout kind).items = .ok text ∧ node.requireGuid "UUID" = .ok id

namespace Step

theorem mem_of_mem_made {steps : List Step} {change : Change} (member : change ∈ made steps) :
    .ok change ∈ steps := by
  induction steps with
  | nil => cases member
  | cons step rest ih => cases step with
    | error fault => cases member
    | ok first =>
      rcases List.mem_cons.1 member with rfl | later
      · exact List.mem_cons_self
      · exact List.mem_cons_of_mem _ (ih later)

theorem ok_mem_after_iff {α : Type} {first : Except ReadError α} {steps : α → List Step}
    {change : Change} :
    .ok change ∈ after first steps ↔ ∃ value, first = .ok value ∧ .ok change ∈ steps value := by
  cases first with
  | error fault => simp [after]
  | ok value => simp [after]

variable {kind : ListKind} {id : Guid} {candidates : List String}

theorem setList_mem_ofLists {resource : Resource}
    (member : .ok (.setList kind id candidates) ∈ ofLists resource) :
    ∃ text, resource.WritesList kind id text ∧ candidates = Reading.candidatesOf text := by
  obtain ⟨own, _, inKind⟩ := List.mem_flatMap.1 member
  obtain ⟨region, isRegion, inRegion⟩ := List.mem_flatMap.1 inKind
  rcases List.mem_cons.1 inRegion with opening | inNodes
  · cases opening
  · obtain ⟨node, isNode, inNode⟩ := List.mem_flatMap.1 inNodes
    obtain ⟨text, hasText, only⟩ := ok_mem_after_iff.1 inNode
    have read := List.mem_singleton.1 only
    cases hasId : node.requireGuid "UUID" with
    | error fault =>
      rw [hasId] at read
      cases read
    | ok list =>
      rw [hasId] at read
      cases read
      exact ⟨text, ⟨region, Option.mem_toList.1 isRegion, node, isNode, hasText, hasId⟩, rfl⟩

theorem setList_not_mem_map {α β : Type} {items : List α} {read : α → Except ReadError β}
    {change : β → Change} (other : ∀ value, change value ≠ .setList kind id candidates) :
    .ok (.setList kind id candidates) ∉ items.map fun item => (read item).map change := by
  intro member
  obtain ⟨item, _, same⟩ := List.mem_map.1 member
  cases value : read item with
  | error fault =>
    rw [value] at same
    cases same
  | ok found =>
    rw [value] at same
    exact other found (Except.ok.inj same)

theorem setList_not_mem_ofIdentity (resource : Resource) :
    .ok (.setList kind id candidates) ∉ ofIdentity resource := by
  intro member
  unfold ofIdentity at member
  split at member
  · simp at member
  · split at member
    · simp at member
    · simp [ofInfo, ofDependency, ok_mem_after_iff] at member

theorem setList_mem_ofFile [Nesting] {role : FileRole} {bytes : ByteArray}
    (member : .ok (.setList kind id candidates) ∈ ofFile role bytes) :
    role = .lists ∧ ∃ resource text, Resource.read bytes = .ok resource ∧
      resource.WritesList kind id text ∧ candidates = Reading.candidatesOf text := by
  cases role with
  | lists =>
    obtain ⟨resource, read, inLists⟩ := ok_mem_after_iff.1 member
    obtain ⟨text, writes, same⟩ := setList_mem_ofLists inLists
    exact ⟨rfl, resource, text, read, writes, same⟩
  | identity =>
    obtain ⟨resource, _, inSteps⟩ := ok_mem_after_iff.1 member
    exact absurd inSteps (setList_not_mem_ofIdentity resource)
  | feats =>
    obtain ⟨resource, _, inSteps⟩ := ok_mem_after_iff.1 member
    obtain ⟨region, _, inRegion⟩ := List.mem_flatMap.1 inSteps
    exact absurd inRegion (setList_not_mem_map nofun)
  | descriptions =>
    obtain ⟨resource, _, inSteps⟩ := ok_mem_after_iff.1 member
    obtain ⟨region, _, inRegion⟩ := List.mem_flatMap.1 inSteps
    exact absurd inRegion (setList_not_mem_map nofun)
  | stats =>
    obtain ⟨entry, _, same⟩ := List.mem_map.1 member
    cases same
  | other => cases member

end Step

theorem exists_getLast?_filterMap {α β : Type} {items : List α} {write : α → Option β} {item : α}
    (member : item ∈ items) {value : β} (writes : write item = some value) :
    ∃ last, (items.filterMap write).getLast? = some last := by
  have written := List.mem_filterMap.2 ⟨item, member, writes⟩
  exact ⟨_, List.getLast?_eq_some_getLast (List.ne_nil_of_mem written)⟩

/-- A list file of a module folder has a node with these candidates. -/
structure PackageFile.Writes [Nesting] (file : PackageFile) (folder : String) (kind : ListKind)
    (id : Guid) (candidates : List String) : Prop where
  place : moduleFolder? file.path = some folder
  role : FileRole.ofPath folder file.path = .lists
  node : ∃ resource text, Resource.read file.bytes = .ok resource ∧
    resource.WritesList kind id text ∧ ListsNames text candidates

theorem PackageFile.Writes.isCleanName [Nesting] {file : PackageFile} {folder : String}
    {kind : ListKind} {id : Guid} {candidates : List String} (writes : file.Writes folder kind id candidates) :
    ∀ name ∈ candidates, IsCleanName name := by
  obtain ⟨_, text, _, _, lists⟩ := writes.node
  exact fun name member => isCleanName_of_mem_namesIn ((lists.mem_iff name).1 member)

namespace PackageContents

variable [Nesting] {folder : String} {kind : ListKind} {id : Guid} {candidates : List String}

theorem writes_of_mem_changesIn {file : PackageFile}
    (member : .setList kind id candidates ∈ changesIn folder file) :
    file.Writes folder kind id candidates := by
  rw [changesIn] at member
  split at member
  · next place =>
    obtain ⟨role, resource, text, read, writes, rfl⟩ :=
      Step.setList_mem_ofFile (Step.mem_of_mem_made member)
    exact ⟨place, role, resource, text, read, writes, listsNames_candidatesOf text⟩
  · cases member

/-- In a snapshot, the list of an identifier is the last that the files of the folder write before
their first faults. -/
theorem candidates?_of_read {package : String} {files : List PackageFile}
    {contents : PackageContents} (read : PackageContents.read package files = .ok contents)
    {m : Module} (held : contents.modules.get? folder = some m) :
    m.candidates? kind id =
      ((files.flatMap (changesIn folder)).filterMap (Change.candidates? kind id)).getLast? := by
  obtain ⟨_, rfl⟩ := (get?_read read).1 held
  rw [Change.candidates?_applyAll]
  exact Option.or_none

theorem exists_writes_of_read {package : String} {files : List PackageFile}
    {contents : PackageContents} (read : PackageContents.read package files = .ok contents)
    {m : Module} (held : contents.modules.get? folder = some m)
    (defined : m.candidates? kind id = some candidates) :
    ∃ file ∈ files, file.Writes folder kind id candidates := by
  rw [candidates?_of_read read held] at defined
  obtain ⟨change, inChanges, put⟩ := List.mem_filterMap.1 (List.mem_of_getLast? defined)
  obtain ⟨file, inFiles, inFile⟩ := List.mem_flatMap.1 inChanges
  obtain rfl := Change.eq_setList put
  exact ⟨file, inFiles, writes_of_mem_changesIn inFile⟩

end PackageContents

namespace Snapshots

variable {found : Snapshots} {folder : String} {m : Module}

theorem candidates?_of_merge (held : found.merge.get? folder = some m) (kind : ListKind)
    (id : Guid) :
    m.candidates? kind id = ((Module.byVersion (found.foundAt folder)).filterMap fun s =>
      s.candidates? kind id).getLast? := by
  obtain ⟨snapshots, inFound, _, rfl⟩ := mem_merge_iff.1 ((OrderedMap.get?_eq_some_iff ..).1 held)
  rw [foundAt, (OrderedMap.get?_eq_some_iff ..).2 inFound]
  exact (Module.isLastSet_foldl folder (Module.isByVersion snapshots).ascending).candidates_eq ..

section Written

variable [Nesting] {tree : FileTree} {patterns : List String} {installs : List FilePath}
  {kind : ListKind} {id : Guid} {candidates : List String}

theorem exists_writes_of_merge (gathered : gather tree patterns installs = .ok found)
    (held : found.merge.get? folder = some m)
    (defined : m.candidates? kind id = some candidates) :
    ∃ package ∈ installs.flatMap (tree.packages patterns),
      ∃ file ∈ (tree.packageFiles package.2).files, file.Writes folder kind id candidates := by
  rw [candidates?_of_merge held] at defined
  obtain ⟨s, inOrder, own⟩ := List.mem_filterMap.1 (List.mem_of_getLast? defined)
  have inFound : s ∈ found.foundAt folder := (Module.isByVersion _).perm.mem_iff.1 inOrder
  obtain ⟨package, inPackages, modules, read, isHeld, _⟩ := (mem_foundAt_gather gathered).1 inFound
  refine ⟨package, inPackages, ?_⟩
  rcases FileTree.readPackage_eq_ok read with rfl | ⟨contents, readFiles, rfl⟩
  · cases isHeld
  · exact PackageContents.exists_writes_of_read readFiles isHeld own

/-- What a file of a package writes may be replaced in the merged module, and is not lost. -/
theorem exists_candidates_of_merge (gathered : gather tree patterns installs = .ok found)
    (held : found.merge.get? folder = some m) {package : FilePath × Location}
    (among : package ∈ installs.flatMap (tree.packages patterns))
    {modules : OrderedMap String Module}
    (read : tree.readPackage package.1 package.2 = .ok modules) {s : Module}
    (has : modules.get? folder = some s) (matters : s.isInteresting = true) {file : PackageFile}
    (inPackage : file ∈ (tree.packageFiles package.2).files)
    (written : .setList kind id candidates ∈ PackageContents.changesIn folder file) :
    ∃ others, m.candidates? kind id = some others := by
  have inFound : s ∈ found.foundAt folder :=
    (mem_foundAt_gather gathered).2 ⟨package, among, modules, read, has, matters⟩
  have inOrder : s ∈ Module.byVersion (found.foundAt folder) :=
    (Module.isByVersion _).perm.mem_iff.2 inFound
  obtain ⟨own, isOwn⟩ : ∃ own, s.candidates? kind id = some own := by
    rcases FileTree.readPackage_eq_ok read with rfl | ⟨contents, readFiles, rfl⟩
    · cases has
    · rw [PackageContents.candidates?_of_read readFiles has]
      exact exists_getLast?_filterMap (List.mem_flatMap.2 ⟨file, inPackage, written⟩)
        (if_pos ⟨rfl, rfl⟩)
  rw [candidates?_of_merge held]
  exact exists_getLast?_filterMap inOrder isOwn

/-- Distinct clean candidates that one node in some packages has. -/
structure IsWritten (tree : FileTree) (packages : List (FilePath × Location)) (folder : String)
    (kind : ListKind) (id : Guid) (candidates : List String) : Prop where
  nodup : candidates.Nodup
  clean : ∀ name ∈ candidates, IsCleanName name
  written : ∃ package ∈ packages, ∃ file ∈ (tree.packageFiles package.2).files,
    file.Writes folder kind id candidates

theorem isWritten_of_merge (gathered : gather tree patterns installs = .ok found)
    (held : found.merge.get? folder = some m)
    (defined : m.candidates? kind id = some candidates) :
    IsWritten tree (installs.flatMap (tree.packages patterns)) folder kind id candidates := by
  obtain ⟨package, inPackages, file, inPackage, writes⟩ :=
    exists_writes_of_merge gathered held defined
  obtain ⟨_, _, _, _, lists⟩ := writes.node
  exact ⟨lists.nodup, writes.isCleanName, package, inPackages, file, inPackage, writes⟩

/-- From the files to the loom, a list of candidates is what one node of one list file names: clean
names, each once, in the order of their first occurrence. This goes for every list of the merged
modules, and for every list that is looked up in the modules once they are in order. A list in a
snapshot that matters may be replaced, and is not lost. -/
theorem lists_of_one_node (gathered : gather tree patterns installs = .ok found) :
    (∀ folder m, found.merge.get? folder = some m → ∀ kind id candidates,
        m.candidates? kind id = some candidates →
          IsWritten tree (installs.flatMap (tree.packages patterns)) folder kind id candidates) ∧
      (∀ folder m, found.merge.get? folder = some m →
        ∀ package ∈ installs.flatMap (tree.packages patterns), ∀ modules s,
          tree.readPackage package.1 package.2 = .ok modules → modules.get? folder = some s →
          s.isInteresting = true → ∀ file ∈ (tree.packageFiles package.2).files,
            ∀ kind id candidates,
              .setList kind id candidates ∈ PackageContents.changesIn folder file →
                ∃ others, m.candidates? kind id = some others) ∧
      ∀ anchors ordered, loadOrder found.merge anchors = .ok ordered →
        ∀ stack, stack <:+ ordered.reverse → ∀ kind id supplier candidates,
          Lookup.supplier? kind id stack = some (supplier, candidates) →
            ∃ folder, supplier.module.name = some folder ∧
              IsWritten tree (installs.flatMap (tree.packages patterns)) folder kind id
                candidates := by
  refine ⟨?_, ?_, ?_⟩
  · intro folder m held kind id candidates defined
    exact isWritten_of_merge gathered held defined
  · intro folder m held package among modules s read has matters file inPackage kind id candidates
      written
    exact exists_candidates_of_merge gathered held among read has matters inPackage written
  · intro anchors ordered loaded stack isBelow kind id supplier candidates supplied
    obtain ⟨below, defined⟩ := Lookup.supplier?_eq_some supplied
    have inStack : supplier.module ∈ ordered.reverse :=
      (below.trans isBelow).subset List.mem_cons_self
    have inMerged : supplier.module ∈ found.merge.values :=
      (LoadOrder.isOrdered_of_loadOrder named_merge loaded).perm.mem_iff.1
        (List.mem_reverse.1 inStack)
    obtain ⟨entry, inEntries, isModule⟩ := List.mem_map.1 inMerged
    have held : found.merge.get? entry.1 = some supplier.module :=
      isModule ▸ (OrderedMap.get?_eq_some_iff ..).2 inEntries
    exact ⟨entry.1, isModule ▸ named_merge entry inEntries,
      isWritten_of_merge gathered held defined⟩

end Written

set_option maxRecDepth 8192 in
/-- A list file has two nodes of one identifier, a node without one, and a third of the first. It is
skipped at the node without an identifier, and the list is that of the second node. -/
theorem lists_of_one_node_skipped :
    let identity : PackageFile := ⟨"Mods/Main/meta.lsx", String.toUTF8 "<region id='Config'><node>
      <children><node id='ModuleInfo'>
      <attribute id='UUID' value='00000000000000000000000000000001'/>
      <attribute id='Name' value='Main'/><attribute id='Version64' value='1'/></node>
      </children></node></region>"⟩
    let lists : PackageFile := ⟨"Public/Main/Lists/lists.lsx", String.toUTF8 "<region
      id='PassiveLists'><node><children>
      <node id='PassiveList'><attribute id='Passives' value='a, b'/>
      <attribute id='UUID' value='00000000000000000000000000000007'/></node>
      <node id='PassiveList'><attribute id='Passives' value=' d ,c,, d'/>
      <attribute id='UUID' value='00000000000000000000000000000007'/></node>
      <node id='PassiveList'><attribute id='Passives' value='e'/></node>
      <node id='PassiveList'><attribute id='Passives' value='f'/>
      <attribute id='UUID' value='00000000000000000000000000000007'/></node>
      </children></node></region>"⟩
    let tree : FileTree :=
      (({} : FileTree).addFile ["Pack", "Mods", "Main", "meta.lsx"] identity.bytes).addFile
        ["Pack", "Public", "Main", "Lists", "lists.lsx"] lists.bytes
    let packages := [FilePath.ofText "Pack"].flatMap (tree.packages [])
    ∃ found m, gather tree [] [FilePath.ofText "Pack"] = .ok found ∧
      found.merge.get? "Main" = some m ∧
      m.candidates? .passive (Guid.ofNat 7) = some ["d", "c"] ∧
      IsWritten tree packages "Main" .passive (Guid.ofNat 7) ["d", "c"] := by
  intro identity lists tree packages
  have parsedIdentity : Xml.read identity.bytes = _ := Xml.read_ofList (by rfl)
  have stepsIdentity : Step.ofFile .identity identity.bytes =
      [Change.setId (Guid.ofNat 1), .setName "Main", .setVersion ⟨1⟩].map .ok := by
    rw [Step.ofFile, Resource.read, parsedIdentity]
    decide +kernel
  have parsedLists : Xml.read lists.bytes = _ := Xml.read_ofList (by rfl)
  have stepsLists : Step.ofFile .lists lists.bytes =
      [Change.openCategory .passive, .setList .passive (Guid.ofNat 7) ["a", "b"],
          .setList .passive (Guid.ofNat 7) ["d", "c"]].map .ok ++
        .error (.missingAttribute "UUID" "PassiveList") ::
          [.ok (.setList .passive (Guid.ofNat 7) ["f"])] := by
    rw [Step.ofFile, Resource.read, parsedLists]
    decide +kernel
  let held : OrderedMap String Module := .ofList [("Main",
    { name := some "Main", id := Guid.ofNat 1, version := ⟨1⟩, package := some "Pack",
      lists := .ofList [(.passive, .ofList [(Guid.ofNat 7, ["d", "c"])])] })]
  have read : PackageContents.read "Pack" [identity, lists] =
      .ok { modules := held, skipped := [lists.path] } := by
    have first (contents : PackageContents) :=
      PackageContents.readFile_of_faultless "Pack" contents
        (by decide : moduleFolder? identity.path = some "Main") (by decide) stepsIdentity
    have second (contents : PackageContents) :=
      PackageContents.readFile_of_fault "Pack" contents
        (by decide : moduleFolder? lists.path = some "Main") (by decide) stepsLists rfl
    simp only [PackageContents.read, List.foldlM_cons, List.foldlM_nil, first, second]
    rfl
  have below : tree.below ["Pack"] = [["Pack", "Mods"], ["Pack", "Mods", "Main"],
      ["Pack", "Mods", "Main", "meta.lsx"], ["Pack", "Public"], ["Pack", "Public", "Main"],
      ["Pack", "Public", "Main", "Lists"], ["Pack", "Public", "Main", "Lists", "lists.lsx"]] :=
    FileTree.below_eq_of_perm (by decide) (by decide)
  have loaded : tree.packageFiles ["Pack"] = { files := [identity, lists] } := by
    rw [FileTree.packageFiles, if_pos (by rfl), FileTree.filesBelow, below]
    rfl
  have located : tree.locate? (FilePath.ofText "Pack") = some ["Pack"] := by rfl
  have only : packages = [(FilePath.ofText "Pack", ["Pack"])] := by
    change [FilePath.ofText "Pack"].flatMap (tree.packages []) = _
    rw [List.flatMap_singleton, FileTree.packages, located]
    dsimp only
    rw [below]
    rfl
  have path : (FilePath.ofText "Pack").toText = "Pack" := by rfl
  have gathered := gather_of_package only (FileTree.readPackage_of_files loaded (path ▸ read))
  have isHeld : (merge (addPackage .empty held)).get? "Main" = some
      { name := some "Main", id := Guid.ofNat 1, version := ⟨1⟩,
        lists := .ofList [(.passive, .ofList [(Guid.ofNat 7, ["d", "c"])])] } := by
    decide +kernel
  exact ⟨_, _, gathered, isHeld, rfl,
    (lists_of_one_node gathered).1 "Main" _ isHeld .passive (Guid.ofNat 7) ["d", "c"] rfl⟩

end Snapshots

end FeatLoom
