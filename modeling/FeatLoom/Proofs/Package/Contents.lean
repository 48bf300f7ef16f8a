import FeatLoom.Proofs.OrderedMap
import FeatLoom.Proofs.Package.Change

/-!
# What a package holds

The snapshot of a module folder is made by the files of the folder alone: each makes its changes up
to its first fault, one file after the other. There is a snapshot for every folder with a file.
-/

namespace FeatLoom.PackageContents

open Step

/-- The snapshot that the files of a module folder change; the first of them opens it. -/
def snapshot (contents : PackageContents) (package folder : String) : Module :=
  (contents.modules.get? folder).getD { name := some folder, package := some package }

theorem snapshot_insert {package folder : String} (contents : PackageContents) (changed : Module)
    (skipped : List String) :
    snapshot ⟨contents.modules.insert folder changed, skipped⟩ package folder = changed := by
  rw [snapshot, OrderedMap.get?_insert, if_pos rfl, Option.getD_some]

variable [Nesting] {package folder : String} {contents : PackageContents} {file : PackageFile}

theorem readFile_eq (place : moduleFolder? file.path = some folder) :
    readFile package contents file =
      let steps := ofFile (FileRole.ofPath folder file.path) file.bytes
      let changed := Change.applyAll (contents.snapshot package folder) (made steps)
      let modules := contents.modules.insert folder changed
      match fault? steps with
      | none => .ok { contents with modules }
      | some fault =>
        if fault.isCaught then .ok { modules, skipped := contents.skipped ++ [file.path] }
        else .error (.file fault) := by
  rw [readFile, place]
  dsimp only
  rewrite [Reading.performs_file, snapshot]
  generalize ofFile (FileRole.ofPath folder file.path) file.bytes = steps
  rfl

theorem readFile_of_faultless (package : String) (contents : PackageContents) {role : FileRole}
    {changes : List Change} (place : moduleFolder? file.path = some folder)
    (isRole : FileRole.ofPath folder file.path = role)
    (steps : ofFile role file.bytes = changes.map .ok) :
    readFile package contents file = .ok { contents with
      modules := contents.modules.insert folder
        (Change.applyAll (contents.snapshot package folder) changes) } := by
  rw [readFile_eq place, isRole, steps]
  dsimp only
  rw [fault?_map_ok, made_map_ok]

theorem readFile_of_fault (package : String) (contents : PackageContents) {role : FileRole}
    {changes : List Change} {fault : ReadError} {rest : List Step}
    (place : moduleFolder? file.path = some folder)
    (isRole : FileRole.ofPath folder file.path = role)
    (steps : ofFile role file.bytes = changes.map .ok ++ .error fault :: rest)
    (caught : fault.isCaught = true) :
    readFile package contents file = .ok {
      modules := contents.modules.insert folder
        (Change.applyAll (contents.snapshot package folder) changes)
      skipped := contents.skipped ++ [file.path] } := by
  have faulty : fault? (changes.map .ok ++ .error fault :: rest) = some fault := by
    rw [fault?_append, fault?_map_ok]
    rfl
  have made : made (changes.map .ok ++ .error fault :: rest) = changes := by
    rw [made_map_ok_append]
    exact List.append_nil changes
  rw [readFile_eq place, isRole, steps]
  dsimp only
  rw [faulty, made]
  exact if_pos caught

def changesIn (folder : String) (file : PackageFile) : List Change :=
  if moduleFolder? file.path = some folder then
    made (ofFile (FileRole.ofPath folder file.path) file.bytes)
  else []

section Reading

variable {after : PackageContents} (read : readFile package contents file = .ok after)

include read

theorem modules_readFile :
    (moduleFolder? file.path = none ∧ after.modules = contents.modules) ∨
      ∃ folder, moduleFolder? file.path = some folder ∧
        after.modules = contents.modules.insert folder
          (Change.applyAll (contents.snapshot package folder) (changesIn folder file)) := by
  cases place : moduleFolder? file.path with
  | none =>
    rw [readFile, place] at read
    cases read
    exact Or.inl ⟨rfl, rfl⟩
  | some folder =>
    refine Or.inr ⟨folder, rfl, ?_⟩
    rw [changesIn, if_pos place]
    rw [readFile_eq place] at read
    dsimp only at read
    generalize ofFile (FileRole.ofPath folder file.path) file.bytes = steps at read ⊢
    cases faulty : fault? steps with
    | none =>
      rw [faulty] at read
      cases read
      rfl
    | some fault =>
      rw [faulty] at read
      dsimp only at read
      split at read <;> cases read
      rfl

theorem snapshot_readFile (folder : String) :
    after.snapshot package folder =
      Change.applyAll (contents.snapshot package folder) (changesIn folder file) := by
  rcases modules_readFile read with ⟨place, modules⟩ | ⟨own, place, modules⟩
  · rw [snapshot, modules, changesIn, place, if_neg nofun]
    rfl
  · by_cases same : own = folder
    · subst same
      rw [snapshot, modules, OrderedMap.get?_insert, if_pos rfl, Option.getD_some]
    · have other : ¬ moduleFolder? file.path = some folder := fun isFolder =>
        same (Option.some.inj (place.symm.trans isFolder))
      rw [snapshot, modules, OrderedMap.get?_insert, if_neg same, changesIn, if_neg other]
      rfl

theorem mem_keys_readFile (folder : String) :
    folder ∈ after.modules.keys ↔
      folder ∈ contents.modules.keys ∨ moduleFolder? file.path = some folder := by
  rcases modules_readFile read with ⟨place, modules⟩ | ⟨own, place, modules⟩
  · rw [modules, place]
    simp
  · rw [modules, place, OrderedMap.insert, OrderedMap.mem_keys_alter, Option.some_inj, eq_comm]

end Reading

section Files

variable {files : List PackageFile} {start : PackageContents}

theorem snapshot_foldlM (read : files.foldlM (readFile package) start = .ok contents)
    (folder : String) :
    contents.snapshot package folder =
      Change.applyAll (start.snapshot package folder) (files.flatMap (changesIn folder)) := by
  induction files generalizing start with
  | nil =>
    cases read
    rfl
  | cons file files ih =>
    rw [List.foldlM_cons] at read
    obtain ⟨next, first, read⟩ := exists_ok_of_bind read
    rw [ih read, snapshot_readFile first, List.flatMap_cons, Change.applyAll_append]

theorem mem_keys_foldlM (read : files.foldlM (readFile package) start = .ok contents)
    (folder : String) :
    folder ∈ contents.modules.keys ↔
      folder ∈ start.modules.keys ∨ ∃ file ∈ files, moduleFolder? file.path = some folder := by
  induction files generalizing start with
  | nil =>
    cases read
    simp
  | cons file files ih =>
    rw [List.foldlM_cons] at read
    obtain ⟨next, first, read⟩ := exists_ok_of_bind read
    rw [ih read, mem_keys_readFile first, List.exists_mem_cons_iff, or_assoc]

/-- A package has a snapshot of every folder with a file, and it is made of the changes of the files
of this folder, in order. -/
theorem get?_read (read : PackageContents.read package files = .ok contents) {folder : String}
    {m : Module} :
    contents.modules.get? folder = some m ↔
      (∃ file ∈ files, moduleFolder? file.path = some folder) ∧
        m = Change.applyAll { name := some folder, package := some package }
          (files.flatMap (changesIn folder)) := by
  have present : folder ∈ contents.modules.keys ↔
      ∃ file ∈ files, moduleFolder? file.path = some folder := by
    rw [mem_keys_foldlM read folder]
    exact or_iff_right List.not_mem_nil
  have changed := snapshot_foldlM read folder
  change _ = Change.applyAll { name := some folder, package := some package } _ at changed
  rw [← changed, ← present]
  constructor
  · intro found
    exact ⟨contents.modules.mem_keys_of_get? found, by rw [snapshot, found, Option.getD_some]⟩
  · rintro ⟨known, rfl⟩
    obtain ⟨other, found⟩ := Option.isSome_iff_exists.1 ((contents.modules.contains_iff _).2 known)
    rw [snapshot, found, Option.getD_some]

end Files

end FeatLoom.PackageContents
