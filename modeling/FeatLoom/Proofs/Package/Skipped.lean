import FeatLoom.Proofs.Package.Contents
import FeatLoom.Proofs.Package.Trace
import FeatLoom.Proofs.Xml.Plain

/-!
# Files that are skipped

A file is skipped for its first fault. What it calls for after the fault is not done, and what it
calls for before has been done and stays in the snapshot of its module. No other snapshot changes.
-/

namespace FeatLoom.PackageContents

open Step

/-- A skipped file leaves in the snapshot of its module the changes that it calls for before its
first fault. The snapshot is as it was before the file if and only if each of these changes that no
later one writes over makes no difference to it. -/
theorem readFile_skipped_iff [Nesting] (package : String) (contents : PackageContents)
    (file : PackageFile) {after : PackageContents} (read : readFile package contents file = .ok after)
    (skips : after.skipped ≠ contents.skipped) :
    ∃ folder changes fault rest, moduleFolder? file.path = some folder ∧
      ofFile (FileRole.ofPath folder file.path) file.bytes =
        changes.map .ok ++ .error fault :: rest ∧
      after.skipped = contents.skipped ++ [file.path] ∧
      (∀ other, other ≠ folder → after.modules.get? other = contents.modules.get? other) ∧
      after.snapshot package folder =
        Change.applyAll (contents.snapshot package folder) changes ∧
      (after.snapshot package folder = contents.snapshot package folder ↔
        ∀ change, Change.Lasts changes change →
          change.apply (contents.snapshot package folder) =
            contents.snapshot package folder) := by
  cases place : moduleFolder? file.path with
  | none =>
    rw [readFile, place] at read
    cases read
    exact absurd rfl skips
  | some folder =>
    rw [readFile_eq place] at read
    dsimp only at read
    cases faulty : fault? (ofFile (FileRole.ofPath folder file.path) file.bytes) with
    | none =>
      rw [faulty] at read
      cases read
      exact absurd rfl skips
    | some fault =>
      obtain ⟨rest, whole⟩ := eq_made_append_of_fault faulty
      rw [faulty] at read
      generalize made (ofFile (FileRole.ofPath folder file.path) file.bytes) = changes at whole read
      obtain rfl : after = ⟨contents.modules.insert folder
          (Change.applyAll (contents.snapshot package folder) changes),
          contents.skipped ++ [file.path]⟩ := by
        dsimp only at read
        split at read <;> cases read
        rfl
      refine ⟨folder, changes, fault, rest, rfl, whole, rfl, ?_, ?_, ?_⟩
      · intro other different
        exact (OrderedMap.get?_insert ..).trans (if_neg different.symm)
      · exact snapshot_insert contents ..
      · rw [snapshot_insert]
        exact Change.applyAll_eq_self_iff

set_option maxRecDepth 4096 in
/-- The second of two feats has no name, and the first one stays. -/
theorem readFile_skipped_iff_second_feat :
    let text : String := "<region id='Feats'><node><children>
      <node id='Feat'><attribute id='UUID' value='00000000000000000000000000000007'/>
      <attribute id='Name' value='Gift'/></node>
      <node id='Feat'><attribute id='UUID' value='00000000000000000000000000000008'/></node>
      </children></node></region>"
    let file : PackageFile := ⟨"Public/Main/Feats/Feats.lsx", text.toUTF8⟩
    let gift : Feat := { id := Guid.ofNat 7, name := "Gift" }
    ∃ after, readFile "pack" {} file = .ok after ∧ after.skipped ≠ [] ∧
      after.snapshot "pack" "Main" =
        (Change.addFeat gift).apply (snapshot {} "pack" "Main") ∧
      after.snapshot "pack" "Main" ≠ snapshot {} "pack" "Main" := by
  intro text file gift
  have parsed : Xml.read file.bytes = _ := Xml.read_ofList (by decide +kernel)
  have steps : ofFile .feats file.bytes =
      [.ok (.addFeat gift), .error (.missingAttribute "Name" "Feat")] := by
    rw [ofFile, Resource.read, parsed]
    decide +kernel
  have place : moduleFolder? file.path = some "Main" := by decide
  have role : FileRole.ofPath "Main" file.path = .feats := by decide
  have read : readFile "pack" {} file = _ := readFile_eq place
  rw [role, steps] at read
  have skips : [file.path] ≠ [] := List.cons_ne_nil _ _
  obtain ⟨folder, changes, fault, rest, isFolder, whole, _, _, changed, kept⟩ :=
    readFile_skipped_iff "pack" {} file read skips
  obtain rfl : "Main" = folder := Option.some.inj (place.symm.trans isFolder)
  obtain rfl : [.addFeat gift] = changes := by
    rw [← List.append_nil changes]
    exact (congrArg made (steps.symm.trans (role ▸ whole))).trans (made_map_ok_append changes _)
  refine ⟨_, read, skips, changed, fun same => ?_⟩
  have lasts : Change.Lasts [.addFeat gift] (.addFeat gift) := ⟨[], [], rfl, nofun⟩
  have added := congrArg Module.feats (kept.1 same _ lasts)
  exact absurd added (by decide)

set_option maxRecDepth 4096 in
/-- An identity without a name is skipped, and its identifier stays. -/
theorem readFile_keeps_id_of_skipped :
    let text : String := "<region id='Config'><node><children><node id='ModuleInfo'>
      <attribute id='UUID' value='00000000000000000000000000000007'/>
      </node></children></node></region>"
    let file : PackageFile := ⟨"Mods/Main/meta.lsx", text.toUTF8⟩
    ∃ after, readFile "pack" {} file = .ok after ∧ after.skipped = [file.path] ∧
      (snapshot {} "pack" "Main").id = Guid.nil ∧
      (after.snapshot "pack" "Main").id = Guid.ofNat 7 := by
  intro text file
  have parsed : Xml.read file.bytes = _ := Xml.read_ofList (by decide +kernel)
  have steps : ofFile .identity file.bytes =
      [.ok (.setId (Guid.ofNat 7)), .error (.missingAttribute "Name" "ModuleInfo")] := by
    rw [ofFile, Resource.read, parsed]
    decide +kernel
  have place : moduleFolder? file.path = some "Main" := by decide
  have role : FileRole.ofPath "Main" file.path = .identity := by decide
  have read : readFile "pack" {} file = _ := readFile_eq place
  rw [role, steps] at read
  exact ⟨_, read, rfl, rfl, rfl⟩

end FeatLoom.PackageContents
