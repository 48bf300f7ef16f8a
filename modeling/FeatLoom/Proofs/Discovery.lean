import FeatLoom.Discovery
import FeatLoom.Proofs.Package.Contents

/-!
# What is discovered

The snapshots of a module folder are those of the packages with a file in this folder, as far as
they matter.
-/

namespace FeatLoom

/-- The locations below a location are the ones inside of it, put in order. -/
theorem FileTree.below_eq_of_perm {tree : FileTree} {place : Location} {places : List Location}
    (perm : ((tree.directories ++ tree.files.keys).filter (isInside place)).Perm places)
    (sorted : places.Pairwise fun a b => precedes a b = true) : tree.below place = places := by
  have transitive (a b c : Location) (first : precedes a b = true) (second : precedes b c = true) :
      precedes a c = true := by
    simp only [precedes, Bool.not_eq_true', decide_eq_false_iff_not] at first second ⊢
    exact List.le_trans first second
  have total (a b : Location) : (precedes a b || precedes b a) = true := by
    simp only [precedes, Bool.or_eq_true, Bool.not_eq_true', decide_eq_false_iff_not]
    exact List.le_total a b
  have same : (tree.below place).Perm places := (List.mergeSort_perm _ _).trans perm
  refine same.eq_of_pairwise ?_ (List.pairwise_mergeSort transitive total _) sorted
  intro a b _ _ first second
  simp only [precedes, Bool.not_eq_true', decide_eq_false_iff_not] at first second
  exact List.le_antisymm first second

/-- Reading a package ends with nothing or with what its files hold. -/
theorem FileTree.readPackage_eq_ok [Nesting] {tree : FileTree} {path : FilePath} {place : Location}
    {modules : OrderedMap String Module} (read : tree.readPackage path place = .ok modules) :
    modules = OrderedMap.empty ∨ ∃ contents,
      PackageContents.read path.toText (tree.packageFiles place).files = .ok contents ∧
        modules = contents.modules := by
  obtain ⟨contents, held, read⟩ := exists_ok_of_bind read
  split at read
  · cases read
    exact Or.inr ⟨contents, held, rfl⟩
  · cases read
    exact Or.inl rfl
  · cases read

theorem FileTree.readPackage_of_files [Nesting] {tree : FileTree} {path : FilePath} {place : Location}
    {files : List PackageFile} {contents : PackageContents}
    (found : tree.packageFiles place = { files })
    (read : PackageContents.read path.toText files = .ok contents) :
    tree.readPackage path place = .ok contents.modules := by
  rw [readPackage, found]
  change (PackageContents.read path.toText files >>= _) = _
  rw [read]
  rfl

namespace Snapshots

def foundAt (snapshots : Snapshots) (folder : String) : List Module :=
  (snapshots.get? folder).getD []

theorem mem_foundAt_add {snapshots : Snapshots} {own folder : String} {snapshot m : Module} :
    m ∈ (snapshots.add own snapshot).foundAt folder ↔
      m ∈ snapshots.foundAt folder ∨ (folder, m) = (own, snapshot) ∧ m.isInteresting = true := by
  rw [add, Prod.mk.injEq]
  cases matters : snapshot.isInteresting with
  | false =>
    rw [if_neg nofun]
    refine (or_iff_left ?_).symm
    rintro ⟨⟨rfl, rfl⟩, isInteresting⟩
    rw [matters] at isInteresting
    cases isInteresting
  | true =>
    rw [if_pos rfl, foundAt, OrderedMap.get?_alter]
    by_cases same : own = folder
    · subst same
      rw [if_pos rfl, Option.getD_some, List.mem_append, List.mem_singleton, foundAt]
      refine or_congr_right ⟨?_, fun added => added.1.2⟩
      rintro rfl
      exact ⟨⟨rfl, rfl⟩, matters⟩
    · rw [if_neg same, foundAt]
      exact (or_iff_left fun added => same added.1.1.symm).symm

theorem mem_foundAt_addPackage {snapshots : Snapshots} {modules : OrderedMap String Module}
    {folder : String} {m : Module} :
    m ∈ (snapshots.addPackage modules).foundAt folder ↔
      m ∈ snapshots.foundAt folder ∨ modules.get? folder = some m ∧ m.isInteresting = true := by
  rw [OrderedMap.get?_eq_some_iff]
  unfold addPackage
  generalize modules.entries = entries
  induction entries generalizing snapshots with
  | nil => simp
  | cons entry entries ih =>
    rw [List.foldl_cons, ih, mem_foundAt_add, List.mem_cons, or_assoc, or_and_right]

theorem addPackage_eq_appendAll (snapshots : Snapshots) (modules : OrderedMap String Module) :
    snapshots.addPackage modules =
      snapshots.appendAll (modules.entries.filter fun entry => entry.2.isInteresting) := by
  rw [OrderedMap.appendAll_eq_foldl, List.foldl_filter]
  rfl

variable [Nesting]

def foundIn (tree : FileTree) :
    List (FilePath × Location) → Except PackageError (List (String × Module))
  | [] => .ok []
  | package :: packages => do
    let modules ← tree.readPackage package.1 package.2
    let more ← foundIn tree packages
    return modules.entries.filter (fun entry => entry.2.isInteresting) ++ more

theorem foldlM_addPackage (tree : FileTree) (packages : List (FilePath × Location))
    (start : Snapshots) :
    packages.foldlM (fun found entry => do
      return addPackage found (← tree.readPackage entry.1 entry.2)) start =
        (foundIn tree packages).map start.appendAll := by
  induction packages generalizing start with
  | nil => rfl
  | cons package packages ih =>
    rw [List.foldlM_cons, foundIn]
    cases tree.readPackage package.1 package.2 with
    | error fault => rfl
    | ok modules =>
      refine (ih (start.addPackage modules)).trans ?_
      rw [addPackage_eq_appendAll]
      cases foundIn tree packages with
      | error fault => rfl
      | ok more => exact congrArg Except.ok (OrderedMap.appendAll_append ..).symm

variable {tree : FileTree} {folder : String} {m : Module} {found : Snapshots}

theorem mem_foundAt_foldlM {packages : List (FilePath × Location)} {start : Snapshots}
    (ok : packages.foldlM (fun found entry => do
      return addPackage found (← tree.readPackage entry.1 entry.2)) start = .ok found) :
    m ∈ found.foundAt folder ↔ m ∈ start.foundAt folder ∨
      ∃ package ∈ packages, ∃ modules, tree.readPackage package.1 package.2 = .ok modules ∧
        modules.get? folder = some m ∧ m.isInteresting = true := by
  induction packages generalizing start with
  | nil =>
    cases ok
    simp
  | cons package packages ih =>
    rw [List.foldlM_cons] at ok
    obtain ⟨next, first, ok⟩ := exists_ok_of_bind ok
    obtain ⟨modules, read, added⟩ := exists_ok_of_bind first
    cases added
    rw [ih ok, mem_foundAt_addPackage, List.exists_mem_cons_iff, or_assoc, read]
    simp

theorem mem_foundAt_gather {patterns : List String} {installs : List FilePath}
    (ok : gather tree patterns installs = .ok found) :
    m ∈ found.foundAt folder ↔
      ∃ package ∈ installs.flatMap (tree.packages patterns), ∃ modules,
        tree.readPackage package.1 package.2 = .ok modules ∧ modules.get? folder = some m ∧
          m.isInteresting = true :=
  (mem_foundAt_foldlM ok).trans (or_iff_right List.not_mem_nil)

theorem gather_of_package {patterns : List String} {installs : List FilePath} {path : FilePath}
    {place : Location} {held : OrderedMap String Module}
    (packages : installs.flatMap (tree.packages patterns) = [(path, place)])
    (read : tree.readPackage path place = .ok held) :
    gather tree patterns installs = .ok (addPackage .empty held) := by
  rw [gather, packages, List.foldlM_cons, read]
  rfl

end Snapshots

end FeatLoom
