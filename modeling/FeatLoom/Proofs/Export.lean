import FeatLoom.Export
import FeatLoom.Proofs.FileTree
import FeatLoom.Proofs.Weaving.Links

/-!
# What an export changes

An export takes out the files that bear its mark and writes its own, all directly in its directory.
No other file changes. The files it writes have distinct names, so afterwards these are the marked
files there, and another export of the same fabric takes them out and writes them once more.
-/

namespace FeatLoom

def FileTree.withoutMarked (tree : FileTree) (mark : String) (place : Location) : FileTree :=
  { tree with files := tree.files.filter fun other _ => !isMarked mark place other }

theorem FileTree.isFile_of_withoutMarked {tree : FileTree} {mark : String}
    {place other : Location} (isFile : (tree.withoutMarked mark place).isFile other) : tree.isFile other := by
  rw [FileTree.isFile, OrderedMap.contains, FileTree.withoutMarked, OrderedMap.get?_filter] at isFile
  split at isFile
  · exact isFile
  · cases isFile

namespace Export

/-- A mark that stands for itself in a pattern and begins a single name. -/
structure IsUsableMark (mark : String) : Prop where
  plain : Text.GlobPart.IsPlain mark.toList
  unslashed : '/' ∉ mark.toList

variable {options : ExportOptions} {fabric : Fabric} {place : Location}
  {tree cleared after : FileTree}

/-! ## Removing -/

theorem yields_forM_remove {found : List (FilePath × Location)} {result : PUnit} :
    FileAction.Yields (forM found fun entry => FileAction.remove entry.2) tree result after ↔
      { tree with files := (found.map Prod.snd).foldl OrderedMap.erase tree.files } = after := by
  induction found generalizing tree with
  | nil => exact FileAction.yields_pure.trans (and_iff_right rfl)
  | cons entry found ih =>
    simp [List.forM_cons, FileAction.yields_remove, ih]

/-- An export takes the marked files out of its directory, and no others. -/
theorem yields_removePrevious (usable : IsUsableMark options.mark) (place : Location)
    (tree : FileTree) : ∃ removed : List FilePath,
      (∀ path, path ∈ removed ↔ ∃ other, tree.isFile other ∧
        FileTree.isMarked options.mark place other ∧
          path = FileTree.pathBelow options.directory place other) ∧
      ∀ value after, (removePrevious options place).Yields tree value after ↔
        removed = value ∧ tree.withoutMarked options.mark place = after := by
  obtain ⟨found, globbed, members⟩ :=
    FileTree.mem_glob_star usable.plain usable.unslashed tree options.directory place
  refine ⟨found.map Prod.fst, fun path => ?_, fun value after => ?_⟩
  · rw [List.mem_map]
    constructor
    · rintro ⟨entry, member, rfl⟩
      obtain ⟨path, isFile, marked⟩ := (members entry).1 member
      exact ⟨entry.2, isFile, marked, path⟩
    · rintro ⟨other, isFile, marked, rfl⟩
      exact ⟨(_, other), (members _).2 ⟨rfl, isFile, marked⟩, rfl⟩
  · have same : (found.map Prod.snd).foldl OrderedMap.erase tree.files =
        tree.files.filter fun other _ => !FileTree.isMarked options.mark place other := by
      apply OrderedMap.foldl_erase_eq_filter
      intro other known
      have isFile : tree.isFile other := (tree.files.contains_iff other).2 known
      rw [Bool.not_eq_false', List.mem_map]
      constructor
      · rintro ⟨entry, member, rfl⟩
        exact ((members entry).1 member).2.2
      · intro marked
        exact ⟨(FileTree.pathBelow options.directory place other, other),
          (members _).2 ⟨rfl, isFile, marked⟩, rfl⟩
    unfold removePrevious
    simp only [List.forM_eq_forM, FileAction.yields_bind, FileAction.yields_get,
      FileAction.yields_ofExcept, FileAction.yields_pure, yields_forM_remove,
      FileTree.withoutMarked]
    constructor
    · rintro ⟨_, _, ⟨rfl, rfl⟩, _, _, ⟨inFound, rfl⟩, _, _, rfl, rfl, rfl⟩
      obtain rfl := Except.ok.inj (globbed.symm.trans inFound)
      exact ⟨rfl, by rw [same]⟩
    · rintro ⟨rfl, rfl⟩
      exact ⟨_, _, ⟨rfl, rfl⟩, _, _, ⟨globbed, rfl⟩, ⟨⟩, _, rfl, rfl, by rw [same]⟩

/-! ## Writing -/

def entryContents (kind : String) (entries : OrderedMap String (List StatEntry)) :
    List (String × String) :=
  entries.entries.map fun entry =>
    (entry.1 ++ "_" ++ kind ++ ".txt", StatEntry.fileText entry.2)

def contents (options : ExportOptions) (fabric : Fabric) : List (String × String) :=
  entryContents "Boosts" fabric.boosts ++ entryContents "Shouts" fabric.spells ++
    [("Wiring.json", (wiringText options fabric.wiring).render options.indent)]

theorem files_eq (options : ExportOptions) (fabric : Fabric) :
    files options fabric =
      (contents options fabric).map fun file => (filePath options file.1, file.2) := by
  simp [files, contents, entryFiles, entryContents, Function.comp_def]

structure IsFileName (name : String) : Prop where
  unslashed : '/' ∉ name.toList
  long : 2 < name.toList.length

def placed (options : ExportOptions) (place : Location) (file : String × String) :
    Location × ByteArray :=
  (place ++ [options.mark ++ file.1], file.2.toUTF8)

section Names

variable (usable : IsUsableMark options.mark) {name : String} (named : IsFileName name)

include named

theorem length_marked (options : ExportOptions) : 2 < (options.mark ++ name).toList.length := by
  rw [String.toList_append, List.length_append]
  exact Nat.lt_of_lt_of_le named.long (Nat.le_add_left _ _)

theorem marked_ne : options.mark ++ name ≠ ".." ∧ options.mark ++ name ≠ "/" := by
  have long := length_marked named options
  constructor <;> intro same <;> rw [same] at long <;> exact absurd long (by decide)

theorem isMarked_placed (text : String) :
    FileTree.isMarked options.mark place (placed options place (name, text)).1 := by
  refine FileTree.isMarked_iff.2 ⟨_, rfl, (marked_ne named).2, (marked_ne named).1, ?_⟩
  rw [String.toList_append]
  exact List.prefix_append _ _

include usable

theorem filePath_eq : filePath options name =
    { options.directory with parts := options.directory.parts ++ [options.mark ++ name] } := by
  have long := length_marked named options
  have one : FilePath.ofText (options.mark ++ name) = { parts := [options.mark ++ name] } := by
    apply FilePath.ofText_of_unslashed
    · rw [String.toList_append, List.mem_append, not_or]
      exact ⟨usable.unslashed, named.unslashed⟩
    · unfold FilePath.isNamed
      rw [Bool.and_eq_true, decide_eq_true_iff, decide_eq_true_iff]
      constructor <;> intro same <;> rw [same] at long <;> exact absurd long (by decide)
  rw [filePath, one]
  rfl

theorem locate?_filePath : tree.locate? (filePath options name) =
    (tree.locate? options.directory).map fun place => place ++ [options.mark ++ name] := by
  rw [filePath_eq usable named, FileTree.locate?_eq_follow, FileTree.locate?_eq_follow]
  exact FileTree.follow_concat _ (marked_ne named).1

end Names

/-- Files that are written one after the other are all there afterwards, and none of them took the
place of a directory. -/
theorem yields_forM_writeText (usable : IsUsableMark options.mark) {files : List (String × String)}
    (named : ∀ file ∈ files, IsFileName file.1) {result : PUnit}
    (yields : FileAction.Yields
      (forM files fun file => FileAction.writeText (filePath options file.1) file.2)
      tree result after)
    (located : tree.locate? options.directory = some place) :
    { tree with files := tree.files.insertAll (files.map (placed options place)) } = after ∧
      ∀ file ∈ files, tree.isDirectory (placed options place file).1 = false := by
  induction files generalizing tree with
  | nil =>
    obtain ⟨_, rfl⟩ := FileAction.yields_pure.1 yields
    exact ⟨rfl, by simp⟩
  | cons file files ih =>
    rw [List.forall_mem_cons] at named
    rw [List.forM_cons, FileAction.yields_bind] at yields
    obtain ⟨_, between, first, rest⟩ := yields
    obtain ⟨there, found, fresh, _, rfl⟩ := FileAction.yields_writeText.1 first
    rw [locate?_filePath usable named.1, located, Option.map_some] at found
    obtain rfl := Option.some.inj found
    obtain ⟨whole, others⟩ := ih named.2 rest located
    exact ⟨whole, List.forall_mem_cons.2 ⟨fresh, others⟩⟩

theorem yields_write (usable : IsUsableMark options.mark)
    (named : ∀ file ∈ contents options fabric, IsFileName file.1)
    (located : tree.locate? options.directory = some place) {written : List FilePath}
    (yields : (write options fabric).Yields tree written after) :
    (files options fabric).map Prod.fst = written ∧
      { tree with files :=
          tree.files.insertAll ((contents options fabric).map (placed options place)) } = after ∧
      ∀ file ∈ contents options fabric, tree.isDirectory (placed options place file).1 = false := by
  unfold write at yields
  simp only [List.forM_eq_forM, FileAction.yields_bind, FileAction.yields_pure] at yields
  obtain ⟨_, _, wrote, rfl, rfl⟩ := yields
  rw [files_eq, List.forM_map] at wrote
  exact ⟨rfl, yields_forM_writeText usable named wrote located⟩

/-! ## Names -/

theorem mem_entryContents {kind : String} {entries : OrderedMap String (List StatEntry)}
    {file : String × String} (member : file ∈ entryContents kind entries) :
    ∃ module ∈ entries.keys, file.1 = module ++ "_" ++ kind ++ ".txt" := by
  obtain ⟨entry, inEntries, rfl⟩ := List.mem_map.1 member
  exact ⟨entry.1, List.mem_map_of_mem inEntries, rfl⟩

theorem isFileName_entry {module kind : String} (unslashed : '/' ∉ module.toList)
    (plain : '/' ∉ kind.toList) : IsFileName (module ++ "_" ++ kind ++ ".txt") where
  unslashed := by simp [unslashed, plain]
  long := by
    simp only [String.toList_append, List.length_append]
    exact Nat.lt_of_lt_of_le (by decide) (Nat.le_add_left _ _)

theorem isFileName_contents
    (unslashed : ∀ module ∈ fabric.boosts.keys ++ fabric.spells.keys, '/' ∉ module.toList) :
    ∀ file ∈ contents options fabric, IsFileName file.1 := by
  rw [List.forall_mem_append] at unslashed
  intro file member
  rw [contents, List.mem_append, List.mem_append, List.mem_singleton] at member
  rcases member with (boosts | spells) | rfl
  · obtain ⟨module, known, name⟩ := mem_entryContents boosts
    rw [name]
    exact isFileName_entry (unslashed.1 module known) (by decide)
  · obtain ⟨module, known, name⟩ := mem_entryContents spells
    rw [name]
    exact isFileName_entry (unslashed.2 module known) (by decide)
  · change IsFileName "Wiring.json"
    exact ⟨by decide, by decide⟩

theorem nodup_entryContents (kind : String) (entries : OrderedMap String (List StatEntry)) :
    ((entryContents kind entries).map Prod.fst).Nodup := by
  have names : (entryContents kind entries).map Prod.fst =
      entries.keys.map fun module => module ++ "_" ++ kind ++ ".txt" := by
    simp [entryContents, OrderedMap.keys, Function.comp_def]
  rw [names]
  refine entries.nodup_keys.map fun first second same => ?_
  simpa [String.append_left_inj] using same

theorem nodup_contents (options : ExportOptions) (fabric : Fabric) :
    ((contents options fabric).map Prod.fst).Nodup := by
  have ending {kind : String} {entries : OrderedMap String (List StatEntry)} {name : String}
      (member : name ∈ (entryContents kind entries).map Prod.fst) :
      (kind ++ ".txt").toList <:+ name.toList := by
    obtain ⟨file, inFiles, rfl⟩ := List.mem_map.1 member
    obtain ⟨module, _, name⟩ := mem_entryContents inFiles
    have whole : file.1.toList = (module ++ "_").toList ++ (kind ++ ".txt").toList := by
      rw [name, String.append_assoc, String.toList_append]
    exact whole ▸ List.suffix_append _ _
  rw [contents, List.map_append, List.map_append, List.nodup_append, List.nodup_append]
  refine ⟨⟨nodup_entryContents _ _, nodup_entryContents _ _, ?_⟩, List.nodup_singleton _, ?_⟩
  · intro first inBoosts second inSpells same
    subst same
    have both := List.suffix_of_suffix_length_le (ending inBoosts) (ending inSpells) (by decide)
    exact absurd both (by decide)
  · intro first inEntries second inWiring same
    subst same
    obtain rfl : first = "Wiring.json" := List.mem_singleton.1 inWiring
    rcases List.mem_append.1 inEntries with boosts | spells
    · exact absurd (ending boosts) (by decide)
    · exact absurd (ending spells) (by decide)

theorem written_eq (options : ExportOptions) (fabric : Fabric) :
    (files options fabric).map Prod.fst =
      (fabric.boosts.keys.map fun module => filePath options (module ++ "_Boosts.txt")) ++
        (fabric.spells.keys.map fun module => filePath options (module ++ "_Shouts.txt")) ++
          [filePath options "Wiring.json"] := by
  have ending (module kind : String) : module ++ "_" ++ kind ++ ".txt" =
      module ++ ("_" ++ kind ++ ".txt") := by
    rw [String.append_assoc, String.append_assoc, String.append_assoc]
  simp only [files, entryFiles, OrderedMap.keys, List.map_append, List.map_map, Function.comp_def,
    List.map_cons, List.map_nil, ending]
  rfl

/-! ## Exporting -/

theorem yields_prepare (clears : options.removePrevious = true) {removed : List FilePath} :
    (prepare options).Yields tree removed cleared ↔
      ∃ place made, (FileAction.makeDirectories options.directory).Yields tree place made ∧
        (removePrevious options place).Yields made removed cleared := by
  unfold prepare
  rw [clears]
  exact FileAction.yields_bind

theorem exportTo_of_yields {removed written : List FilePath}
    (prepared : (prepare options).Yields tree removed cleared)
    (wrote : (write options fabric.prune).Yields cleared written after) :
    fabric.exportTo options tree = ⟨.ok { written, removed }, fabric.prune, after⟩ := by
  unfold Fabric.exportTo
  rw [prepared]
  dsimp only
  rw [wrote]

theorem yields_of_exportTo {exported : Exported} {pruned : Fabric}
    (ran : fabric.exportTo options tree = ⟨.ok exported, pruned, after⟩) :
    fabric.prune = pruned ∧ ∃ cleared,
      (prepare options).Yields tree exported.removed cleared ∧
        (write options fabric.prune).Yields cleared exported.written after := by
  unfold Fabric.exportTo at ran
  split at ran
  · cases ran
  · next removed cleared prepared =>
    dsimp only at ran
    split at ran
    · cases ran
    · next written changed wrote =>
      cases ran
      exact ⟨rfl, cleared, prepared, wrote⟩

/-- What an export of a fabric does to the files in and around its directory, and what it reports
of it. -/
structure IsExported (options : ExportOptions) (fabric : Fabric) (place : Location)
    (before after : FileTree) (exported : Exported) : Prop where
  located : after.locate? options.directory = some place
  directory : after.isDirectory place
  kept : before.HasDirectories after
  untouched : ∀ other, ¬ FileTree.isMarked options.mark place other →
    after.files.get? other = before.files.get? other
  written : exported.written =
    (fabric.boosts.keys.map fun module => filePath options (module ++ "_Boosts.txt")) ++
      (fabric.spells.keys.map fun module => filePath options (module ++ "_Shouts.txt")) ++
        [filePath options "Wiring.json"]
  distinct : exported.written.Nodup
  marked : ∀ other, (after.isFile other ∧ FileTree.isMarked options.mark place other) ↔
    ∃ path ∈ exported.written, after.locate? path = some other
  contents : ∀ file ∈ files options fabric.prune, ∃ other,
    after.locate? file.1 = some other ∧ after.files.get? other = some file.2.toUTF8
  removed : ∀ path, path ∈ exported.removed ↔ ∃ other, before.isFile other ∧
    FileTree.isMarked options.mark place other ∧
      path = FileTree.pathBelow options.directory place other

section Exporting

variable (usable : IsUsableMark options.mark)
  (named : ∀ file ∈ contents options fabric, IsFileName file.1)

theorem nodup_placed (options : ExportOptions) (fabric : Fabric) (place : Location) :
    (((contents options fabric).map (placed options place)).map Prod.fst).Nodup := by
  have places : ((contents options fabric).map (placed options place)).map Prod.fst =
      ((contents options fabric).map Prod.fst).map fun name => place ++ [options.mark ++ name] := by
    simp [placed, Function.comp_def]
  rw [places]
  refine (nodup_contents options fabric).map fun first second same => ?_
  simpa [String.append_right_inj] using same

include named

theorem isMarked_of_mem_placed {entry : Location × ByteArray}
    (member : entry ∈ (contents options fabric).map (placed options place)) :
    FileTree.isMarked options.mark place entry.1 := by
  obtain ⟨file, inContents, rfl⟩ := List.mem_map.1 member
  exact isMarked_placed (named file inContents) file.2

include usable

/-- The paths that are written lead to where the files are. -/
theorem locate?_written (located : after.locate? options.directory = some place) :
    ((files options fabric).map Prod.fst).map after.locate? =
      (((contents options fabric).map (placed options place)).map Prod.fst).map some := by
  rw [files_eq, List.map_map, List.map_map, List.map_map, List.map_map]
  apply List.map_congr_left
  intro file member
  change after.locate? (filePath options file.1) = some (place ++ [options.mark ++ file.1])
  rw [locate?_filePath usable (named file member), located, Option.map_some]

theorem mem_placed_iff (located : after.locate? options.directory = some place) (other : Location) :
    other ∈ ((contents options fabric).map (placed options place)).map Prod.fst ↔
      ∃ path ∈ (files options fabric).map Prod.fst, after.locate? path = some other := by
  have same := congrArg (some other ∈ ·) (locate?_written usable named located)
  simpa [List.mem_map] using same.symm

end Exporting

def replaced (options : ExportOptions) (fabric : Fabric) (place : Location) (made : FileTree) :
    FileTree :=
  { made with
    files := (made.withoutMarked options.mark place).files.insertAll
      ((contents options fabric).map (placed options place)) }

section Replaced

variable {made : FileTree} {other : Location}

theorem hasDirectories_replaced : made.HasDirectories (replaced options fabric place made) :=
  FileTree.HasDirectories.of_eq rfl

theorem get?_replaced (other : Location) :
    (replaced options fabric place made).files.get? other =
      (OrderedMap.find? other ((contents options fabric).map (placed options place))).or
        (if FileTree.isMarked options.mark place other then none else made.files.get? other) := by
  rw [replaced, OrderedMap.get?_insertAll _ (nodup_placed options fabric place)]
  unfold FileTree.withoutMarked
  rw [OrderedMap.get?_filter]
  cases FileTree.isMarked options.mark place other <;> rfl

variable (named : ∀ file ∈ contents options fabric, IsFileName file.1)

include named

theorem get?_replaced_of_not_isMarked (unmarked : ¬ FileTree.isMarked options.mark place other) :
    (replaced options fabric place made).files.get? other = made.files.get? other := by
  have absent : OrderedMap.find? other ((contents options fabric).map (placed options place)) =
      none := by
    rw [OrderedMap.find?_eq_none_iff]
    intro member
    obtain ⟨entry, inPlaced, rfl⟩ := List.mem_map.1 member
    exact unmarked (isMarked_of_mem_placed named inPlaced)
  rw [get?_replaced, absent, if_neg unmarked, Option.none_or]

theorem isFile_replaced_and_isMarked :
    ((replaced options fabric place made).isFile other ∧
        FileTree.isMarked options.mark place other) ↔
      other ∈ ((contents options fabric).map (placed options place)).map Prod.fst := by
  rw [replaced, FileTree.isFile, OrderedMap.contains_insertAll]
  constructor
  · rintro ⟨before | written, marked⟩
    · rw [FileTree.withoutMarked, OrderedMap.contains, OrderedMap.get?_filter, marked] at before
      cases before
    · exact written
  · intro member
    obtain ⟨entry, inPlaced, rfl⟩ := List.mem_map.1 member
    exact ⟨.inr member, isMarked_of_mem_placed named inPlaced⟩

/-- Taking the marked files out undoes the writing. -/
theorem withoutMarked_replaced :
    (replaced options fabric place made).withoutMarked options.mark place =
      made.withoutMarked options.mark place := by
  unfold replaced FileTree.withoutMarked
  rw [OrderedMap.filter_insertAll_of_dropped, OrderedMap.filter_filter_self]
  intro entry member
  rw [isMarked_of_mem_placed named member]
  rfl

end Replaced

theorem isExported_replaced (usable : IsUsableMark options.mark)
    (named : ∀ file ∈ contents options fabric.prune, IsFileName file.1) {made : FileTree}
    (makes : FileAction.Made options.directory (FileTree.start options.directory)
      options.directory.parts tree place made)
    {removed : List FilePath}
    (gone : ∀ path, path ∈ removed ↔ ∃ other, made.isFile other ∧
      FileTree.isMarked options.mark place other ∧
        path = FileTree.pathBelow options.directory place other) :
    IsExported options fabric place tree (replaced options fabric.prune place made)
      { written := (files options fabric.prune).map Prod.fst, removed } := by
  have located : (replaced options fabric.prune place made).locate? options.directory =
      some place := makes.leads _ hasDirectories_replaced
  have written := locate?_written usable named located
  have distinct := nodup_placed options fabric.prune place
  refine
    { located
      directory := hasDirectories_replaced _ makes.settled.isDirectory
      kept := fun other there => hasDirectories_replaced _ (makes.kept other there)
      untouched := fun other unmarked => ?_
      written := written_eq options fabric.prune
      distinct := ?_
      marked := fun other => ?_
      contents := fun file member => ?_
      removed := fun path => ?_ }
  · rw [get?_replaced_of_not_isMarked named unmarked, makes.files]
  · apply List.Nodup.of_map
    rw [written]
    exact distinct.map fun _ _ => Option.some.inj
  · rw [isFile_replaced_and_isMarked named, mem_placed_iff usable named located]
  · rw [files_eq, List.mem_map] at member
    obtain ⟨part, inContents, rfl⟩ := member
    refine ⟨(placed options place part).1, ?_, ?_⟩
    · rw [locate?_filePath usable (named part inContents), located]
      rfl
    · have found := (OrderedMap.find?_eq_some_iff distinct (placed options place part).1 _).2
        (List.mem_map_of_mem inContents)
      rw [get?_replaced, found]
      rfl
  · rw [gone]
    unfold FileTree.isFile
    rw [makes.files]

/-- An export that is not told to keep what is there changes marked files only. To export its
fabric again then leads to the same files. -/
theorem isExported_exportTo (usable : IsUsableMark options.mark)
    (clears : options.removePrevious = true)
    (unslashed : ∀ module ∈ fabric.boosts.keys ++ fabric.spells.keys, '/' ∉ module.toList)
    {exported : Exported} {pruned : Fabric}
    (ran : fabric.exportTo options tree = ⟨.ok exported, pruned, after⟩) :
    (∃ place, IsExported options fabric place tree after exported) ∧
      ∃ removed, pruned.exportTo options after =
        ⟨.ok { exported with removed }, pruned, after⟩ := by
  have named : ∀ file ∈ contents options fabric.prune, IsFileName file.1 :=
    isFileName_contents unslashed
  obtain ⟨rfl, cleared, prepared, wrote⟩ := yields_of_exportTo ran
  obtain ⟨place, made, makes, removes⟩ := (yields_prepare clears).1 prepared
  have along := FileAction.made_of_yields (FileTree.settled_start _) makes
  obtain ⟨removed, gone, removing⟩ := yields_removePrevious usable place made
  obtain ⟨rfl, rfl⟩ := (removing _ _).1 removes
  have located : (made.withoutMarked options.mark place).locate? options.directory = some place :=
    along.leads _ (FileTree.HasDirectories.of_eq rfl)
  obtain ⟨written, whole, fresh⟩ := yields_write usable named located wrote
  obtain rfl : replaced options fabric.prune place made = after := whole
  constructor
  · obtain ⟨written, removed⟩ := exported
    obtain rfl := written
    exact ⟨place, isExported_replaced usable named along gone⟩
  · -- The directory is still there, and without the marked files all is as before the writing.
    have again : (FileAction.makeDirectories options.directory).Yields
        (replaced options fabric.prune place made) place
        (replaced options fabric.prune place made) := by
      refine along.again _ hasDirectories_replaced fun inner directory isFile => ?_
      rw [replaced, FileTree.isFile, OrderedMap.contains_insertAll] at isFile
      rcases isFile with before | inPlaced
      · rw [FileTree.isFile, ← along.files]
        exact FileTree.isFile_of_withoutMarked before
      · obtain ⟨entry, isPlaced, rfl⟩ := List.mem_map.1 inPlaced
        obtain ⟨file, inContents, rfl⟩ := List.mem_map.1 isPlaced
        have free : made.isDirectory (placed options place file).1 = false := fresh file inContents
        rw [free] at directory
        cases directory
    obtain ⟨removed, _, removing⟩ :=
      yields_removePrevious usable place (replaced options fabric.prune place made)
    have clearing := (removing _ _).2 ⟨rfl, withoutMarked_replaced named⟩
    have prepared := (yields_prepare clears).2 ⟨place, _, again, clearing⟩
    have pruned : fabric.prune.prune = fabric.prune := by
      unfold Fabric.prune
      rw [Wiring.prune_prune]
    refine ⟨removed, ?_⟩
    rw [exportTo_of_yields prepared (pruned.symm ▸ wrote), pruned]

end Export

end FeatLoom
