import FeatLoom.FileTree
import FeatLoom.Proofs.OrderedMap.Replacement
import FeatLoom.Proofs.Text.Glob

/-!
# Changing a file tree

To make directories changes no file, and wherever the directory that was made is still there its
path leads to it, so that it can be made again and nothing changes. To write a file changes what is
found at one location. A pattern with a star at its end finds the files directly inside a directory
whose names begin with a mark.
-/

namespace FeatLoom

/-! ## Paths of one name -/

namespace FilePath

theorem pieces_of_unslashed {text : List Char} (unslashed : '/' ∉ text) : pieces text = [text] := by
  induction text with
  | nil => rfl
  | cons c text ih =>
    rw [List.mem_cons, not_or] at unslashed
    have rest := ih unslashed.2
    unfold pieces at rest ⊢
    rw [List.foldr_cons, rest]
    exact if_neg fun slash => unslashed.1 slash.symm

theorem ofText_of_unslashed {text : String} (unslashed : '/' ∉ text.toList)
    (named : isNamed text.toList) : ofText text = { parts := [text] } := by
  have root : rootOf text.toList = "" := by
    unfold rootOf
    split
    · next rest whole => simp [whole] at unslashed
    · next rest whole => simp [whole] at unslashed
    · next rest whole => simp [whole] at unslashed
    · rfl
  rw [ofText, root, pieces_of_unslashed unslashed, List.filter_cons_of_pos named, List.filter_nil]
  simp

end FilePath

namespace FileTree

variable {tree later : FileTree} {place other : Location}

/-! ## Directories -/

def follow (tree : FileTree) (place : Location) (parts : List String) : Option Location :=
  parts.foldlM (fun place part =>
    if part = ".." then if tree.isDirectory place then some (up place) else none
    else some (place ++ [part])) place

theorem locate?_eq_follow (path : FilePath) :
    tree.locate? path = tree.follow (start path) path.parts := rfl

def HasDirectories (tree later : FileTree) : Prop :=
  ∀ place, tree.isDirectory place → later.isDirectory place

theorem HasDirectories.of_eq (same : tree.directories = later.directories) :
    tree.HasDirectories later := by
  intro place directory
  unfold isDirectory at directory ⊢
  rwa [← same]

/-- A location that is a directory, as all that lead to it are. -/
def Settled (tree : FileTree) (place : Location) : Prop := ∀ n, tree.isDirectory (place.take n)

theorem Settled.isDirectory (settled : tree.Settled place) : tree.isDirectory place := by
  have whole := settled place.length
  rwa [List.take_length] at whole

theorem Settled.mono (settled : tree.Settled place) (has : tree.HasDirectories later) :
    later.Settled place :=
  fun n => has _ (settled n)

theorem isDirectory_of_isAbove (above : isAbove place) : tree.isDirectory place := by
  simp [FileTree.isDirectory, above]

theorem settled_of_isAbove (above : isAbove place) : tree.Settled place := by
  intro n
  apply isDirectory_of_isAbove
  rw [isAbove, List.all_eq_true] at above ⊢
  exact fun name member => above name (List.mem_of_mem_take member)

theorem settled_rootPlace : tree.Settled rootPlace := by
  intro n
  cases n with
  | zero => rfl
  | succ n =>
    rw [rootPlace, List.take_succ_cons, List.take_nil]
    simp [FileTree.isDirectory, rootPlace]

theorem settled_start (path : FilePath) : tree.Settled (start path) := by
  unfold start
  split
  · exact settled_of_isAbove rfl
  · exact settled_rootPlace

theorem Settled.up (settled : tree.Settled place) : tree.Settled (up place) := by
  unfold FileTree.up
  split
  · exact settled
  · split
    · next above =>
      apply settled_of_isAbove
      rw [isAbove, List.all_append, ← isAbove, above]
      rfl
    · intro n
      rw [List.dropLast_eq_take, List.take_take]
      exact settled _

theorem isDirectory_addDirectory :
    (tree.addDirectory place).isDirectory other ↔
      tree.isDirectory other ∨ other ∈ ancestors place ++ [place] := by
  unfold addDirectory
  simp only [FileTree.isDirectory, Bool.or_eq_true, List.contains_iff_mem, List.mem_append,
    List.mem_filter, Bool.not_eq_true']
  grind

theorem hasDirectories_addDirectory : tree.HasDirectories (tree.addDirectory place) :=
  fun _ directory => isDirectory_addDirectory.2 (.inl directory)

theorem mem_ancestors_iff : other ∈ ancestors place ++ [place] ↔
    other = place ∨ ∃ n, n < place.length - 1 ∧ place.take (n + 1) = other := by
  simp [ancestors, or_comm]

theorem settled_addDirectory : (tree.addDirectory place).Settled place := by
  intro n
  rw [isDirectory_addDirectory, mem_ancestors_iff]
  rcases Nat.lt_or_ge n place.length with short | long
  · cases n with
    | zero => exact .inl (isDirectory_of_isAbove rfl)
    | succ n => exact .inr (.inr ⟨n, by omega, rfl⟩)
  · exact .inr (.inl (List.take_of_length_le long))

theorem addDirectory_eq_self (settled : tree.Settled place) : tree.addDirectory place = tree := by
  have none : (ancestors place ++ [place]).filter (fun d => !tree.isDirectory d) = [] := by
    rw [List.filter_eq_nil_iff]
    intro other member
    rcases mem_ancestors_iff.1 member with rfl | ⟨n, _, rfl⟩
    · simp [settled.isDirectory]
    · simp [settled (n + 1)]
  rw [addDirectory, none, List.append_nil]

theorem follow_cons (part : String) (parts : List String) :
    tree.follow place (part :: parts) =
      if part = ".." then if tree.isDirectory place then tree.follow (up place) parts else none
      else tree.follow (place ++ [part]) parts := by
  unfold follow
  rw [List.foldlM_cons]
  by_cases upward : part = ".."
  · by_cases directory : tree.isDirectory place <;> simp [upward, directory]
  · simp [upward]

theorem follow_concat (parts : List String) {name : String} (proper : name ≠ "..") :
    tree.follow place (parts ++ [name]) =
      (tree.follow place parts).map fun reached => reached ++ [name] := by
  induction parts generalizing place with
  | nil =>
    rw [List.nil_append, follow_cons, if_neg proper]
    rfl
  | cons part parts ih =>
    rw [List.cons_append, follow_cons, follow_cons]
    split
    · split
      · exact ih
      · rfl
    · exact ih

/-! ## Marked files -/

def isMarked (mark : String) (place other : Location) : Bool :=
  isInside place other && other.length == place.length + 1 &&
    mark.toList.isPrefixOf (other.getLast?.getD "").toList

theorem isMarked_iff {mark : String} : isMarked mark place other ↔
    ∃ name, other = place ++ [name] ∧ name ≠ "/" ∧ name ≠ ".." ∧ mark.toList <+: name.toList := by
  constructor
  · intro marked
    simp only [isMarked, isInside, Bool.and_eq_true, beq_iff_eq, List.isPrefixOf_iff_prefix]
      at marked
    obtain ⟨⟨⟨⟨rest, rfl⟩, proper⟩, length⟩, begins⟩ := marked
    have one : rest.length = 1 := by
      rw [List.length_append] at length
      omega
    obtain ⟨name, rfl⟩ := List.length_eq_one_iff.1 one
    refine ⟨name, rfl, ?_⟩
    simpa [and_assoc] using And.intro proper begins
  · rintro ⟨name, rfl, notRoot, notUp, begins⟩
    simp [isMarked, isInside, notRoot, notUp, begins]

theorem mem_children_iff : other ∈ tree.children place ↔
    (other ∈ tree.directories ∨ tree.isFile other) ∧ isInside place other ∧
      other.length = place.length + 1 := by
  simp [children, below, isFile, OrderedMap.contains_iff, ← or_and_right, and_assoc]

theorem mem_glob_star {mark : String} (plain : Text.GlobPart.IsPlain mark.toList)
    (unslashed : '/' ∉ mark.toList) (tree : FileTree) (base : FilePath) (place : Location) :
    ∃ found, tree.glob base place (mark ++ "*") = .ok found ∧
      ∀ entry, entry ∈ found ↔ entry.1 = pathBelow base place entry.2 ∧
        tree.isFile entry.2 ∧ isMarked mark place entry.2 := by
  have letters : (mark ++ "*").toList = mark.toList ++ ['*'] := String.toList_append
  have named : FilePath.isNamed (mark ++ "*").toList := by
    rw [letters]
    cases mark.toList with
    | nil => rfl
    | cons c rest => simp [FilePath.isNamed]
  have steps : FilePath.ofText (mark ++ "*") = { parts := [mark ++ "*"] } := by
    refine FilePath.ofText_of_unslashed ?_ named
    simpa [letters] using unslashed
  have usable : Text.holds ['*', '*'] (mark ++ "*").toList = false := by
    rw [letters]
    exact Text.holds_stars plain
  have single : mark ++ "*" ≠ "**" ∧ mark ++ "*" ≠ ".." := by
    constructor
    · intro same
      rw [same] at usable
      exact absurd usable (by decide)
    · intro same
      have last := congrArg (fun text => text.toList.getLast?) same
      simp [letters] at last
  rw [glob, steps]
  simp only [usable, List.any_cons, List.any_nil, Bool.and_false, Bool.or_self, ne_eq,
    not_true_eq_false, Bool.false_eq_true, if_false]
  refine ⟨_, rfl, fun entry => ?_⟩
  obtain ⟨path, other⟩ := entry
  simp only [List.mem_mergeSort, List.mem_eraseDups, List.mem_filter, List.dropLast_singleton,
    List.foldl_nil, List.getLast?_singleton, Option.getD_some, globStep, List.flatMap_singleton,
    if_neg single.1, if_neg single.2, List.mem_map, Bool.true_or, Bool.and_true,
    Text.globMatches_concat_star plain, mem_children_iff, Prod.mk.injEq]
  constructor
  · rintro ⟨⟨found, ⟨⟨_, inside, length⟩, begins⟩, rfl, rfl⟩, isFile⟩
    exact ⟨rfl, isFile, by simp [isMarked, inside, length, begins]⟩
  · rintro ⟨rfl, isFile, marked⟩
    simp only [isMarked, Bool.and_eq_true, beq_iff_eq] at marked
    obtain ⟨⟨inside, length⟩, begins⟩ := marked
    exact ⟨⟨other, ⟨⟨.inr isFile, inside, length⟩, begins⟩, rfl, rfl⟩, isFile⟩

end FileTree

/-! ## Actions -/

namespace FileAction

section Yields

variable {ε α β : Type} {tree after : FileTree}

/-- An action does not fail, has a value, and leaves a tree. -/
def Yields (action : FileAction ε α) (tree : FileTree) (value : α) (after : FileTree) : Prop :=
  action.run.run tree = (.ok value, after)

theorem exists_yields_of_isOk {action : FileAction ε α} (ok : (action.run.run tree).1.isOk) :
    ∃ value after, action.Yields tree value after := by
  unfold Yields
  generalize action.run.run tree = run at ok
  obtain ⟨fault | value, after⟩ := run
  · cases ok
  · exact ⟨value, after, rfl⟩

theorem run_bind (action : FileAction ε α) (next : α → FileAction ε β) (tree : FileTree) :
    (action >>= next).run.run tree = match action.run.run tree with
      | (.ok value, between) => (next value).run.run between
      | (.error fault, between) => (.error fault, between) := by
  change (StateT.bind action (ExceptT.bindCont next)) tree = _
  unfold ExceptT.run StateT.run StateT.bind
  cases action tree with
  | mk result between => cases result <;> rfl

@[simp] theorem yields_bind {action : FileAction ε α} {next : α → FileAction ε β} {value : β} :
    (action >>= next).Yields tree value after ↔
      ∃ middle between, action.Yields tree middle between ∧
        (next middle).Yields between value after := by
  unfold Yields
  rw [run_bind]
  constructor
  · intro ended
    split at ended
    · next middle between first => exact ⟨middle, between, first, ended⟩
    · cases ended
  · rintro ⟨middle, between, first, rest⟩
    rw [first]
    exact rest

@[simp] theorem yields_pure {value result : α} :
    (pure value : FileAction ε α).Yields tree result after ↔ value = result ∧ tree = after := by
  change (Except.ok value, tree) = (Except.ok result, after) ↔ _
  simp

@[simp] theorem yields_throw {fault : ε} {result : α} :
    (throw fault : FileAction ε α).Yields tree result after ↔ False := by
  change (Except.error fault, tree) = (Except.ok result, after) ↔ _
  simp

@[simp] theorem yields_ofExcept {outcome : Except ε α} {value : α} :
    (ofExcept outcome : FileAction ε α).Yields tree value after ↔
      outcome = .ok value ∧ tree = after := by
  cases outcome with
  | ok found =>
    change (Except.ok found, tree) = (Except.ok value, after) ↔ _
    simp
  | error fault =>
    change (Except.error fault, tree) = (Except.ok value, after) ↔ _
    simp

@[simp] theorem yields_get {result : FileTree} :
    (get : FileAction ε FileTree).Yields tree result after ↔ tree = result ∧ tree = after := by
  change (Except.ok tree, tree) = (Except.ok result, after) ↔ _
  simp

@[simp] theorem yields_set {written : FileTree} {result : PUnit} :
    (set written : FileAction ε PUnit).Yields tree result after ↔ written = after := by
  change (Except.ok (), written) = (Except.ok result, after) ↔ _
  simp

@[simp] theorem yields_modify {change : FileTree → FileTree} {result : PUnit} :
    (modify change : FileAction ε PUnit).Yields tree result after ↔ change tree = after := by
  change (Except.ok (), _) = (Except.ok result, after) ↔ _
  simp

/-- A check lets an action go on where it does not hold. -/
@[simp] theorem yields_check {bad : Prop} [Decidable bad] {fault : ε} {next : FileAction ε α}
    {value : α} :
    (if bad then throw fault else next : FileAction ε α).Yields tree value after ↔
      ¬ bad ∧ next.Yields tree value after := by
  by_cases holds : bad <;> simp [holds]

end Yields

variable {tree after : FileTree} {path : FilePath}

theorem yields_locate {place : Location} :
    (locate path).Yields tree place after ↔ tree.locate? path = some place ∧ tree = after := by
  unfold locate
  cases found : tree.locate? path <;> simp [found]

theorem yields_writeText {text : String} {result : PUnit} :
    (writeText path text).Yields tree result after ↔
      ∃ place, tree.locate? path = some place ∧ tree.isDirectory place = false ∧
        ((FileTree.ancestors place).any tree.isFile = false ∧ tree.isDirectory place.dropLast) ∧
        { tree with files := tree.files.insert place text.toUTF8 } = after := by
  unfold writeText
  simp [yields_locate, and_assoc]

theorem yields_remove {place : Location} {result : PUnit} :
    (remove place).Yields tree result after ↔
      { tree with files := tree.files.erase place } = after :=
  yields_modify

structure Made (path : FilePath) (place : Location) (parts : List String) (tree : FileTree)
    (reached : Location) (after : FileTree) : Prop where
  files : after.files = tree.files
  kept : tree.HasDirectories after
  settled : after.Settled reached
  leads : ∀ later : FileTree, after.HasDirectories later → later.follow place parts = some reached
  again : ∀ later : FileTree, after.HasDirectories later →
    (∀ inner, after.isDirectory inner → later.isFile inner → tree.isFile inner) →
      (makeAlong path place parts).Yields later reached later

theorem made_of_yields {place reached : Location} {parts : List String}
    (settled : tree.Settled place)
    (yields : (makeAlong path place parts).Yields tree reached after) :
    Made path place parts tree reached after := by
  induction parts generalizing tree place with
  | nil =>
    obtain ⟨rfl, rfl⟩ := yields_pure.1 yields
    exact ⟨rfl, fun _ => id, settled, fun _ _ => rfl, fun _ _ _ => yields_pure.2 ⟨rfl, rfl⟩⟩
  | cons part parts ih =>
    by_cases upward : part = ".."
    · rw [makeAlong, if_pos upward] at yields
      have made := ih settled.up yields
      refine ⟨made.files, made.kept, made.settled, fun later has => ?_, fun later has free => ?_⟩
      · rw [FileTree.follow_cons, if_pos upward, if_pos (has _ (made.kept _ settled.isDirectory))]
        exact made.leads later has
      · rw [makeAlong, if_pos upward]
        exact made.again later has free
    · rw [makeAlong, if_neg upward] at yields
      simp only [yields_bind, yields_get, yields_check, yields_modify, ExceptT.bind_throw] at yields
      obtain ⟨_, _, ⟨rfl, rfl⟩, absent, _, _, rfl, rest⟩ := yields
      have made := ih FileTree.settled_addDirectory rest
      refine ⟨made.files, fun inner directory => ?_, made.settled, fun later has => ?_,
        fun later has free => ?_⟩
      · exact made.kept inner (FileTree.hasDirectories_addDirectory inner directory)
      · rw [FileTree.follow_cons, if_neg upward]
        exact made.leads later has
      · -- The directory is there now, so it is no file and nothing is added.
        have there : later.Settled (place ++ [part]) :=
          (FileTree.settled_addDirectory.mono made.kept).mono has
        have noFile : ¬ later.isFile (place ++ [part]) := fun isFile =>
          absent (free _ (made.kept _ FileTree.settled_addDirectory.isDirectory) isFile)
        rw [makeAlong, if_neg upward]
        simp only [yields_bind, yields_get, yields_check, yields_modify, ExceptT.bind_throw]
        refine ⟨_, _, ⟨rfl, rfl⟩, noFile, ⟨⟩, later, FileTree.addDirectory_eq_self there, ?_⟩
        exact made.again later has free

end FileAction

end FeatLoom
