import FeatLoom.Proofs.Package.Change
import Mathlib.Control.Monad.Basic

/-!
# Declared dependencies

An identity file states what the module is and, in its first group of dependencies, what it depends
on. Of a file without a fault, all valid dependencies of a valid identity come into the snapshot,
and no change takes a dependency away.
-/

namespace FeatLoom

namespace Resource

def States (resource : Resource) (own : ModuleId) : Prop :=
  ∃ config ∈ resource.region? "Config", ∃ info ∈ (config.childrenNamed "ModuleInfo").head?,
    ModuleId.ofNode info = .ok own

def AsksFor (resource : Resource) (dependency : ModuleId) : Prop :=
  ∃ config ∈ resource.region? "Config", ∃ group ∈ (config.childrenNamed "Dependencies").head?,
    ∃ node ∈ group.childrenNamed "ModuleShortDesc", ModuleId.ofNode node = .ok dependency

instance (resource : Resource) (own : ModuleId) : Decidable (resource.States own) :=
  Option.decidableExistsMem _

instance (resource : Resource) (dependency : ModuleId) :
    Decidable (resource.AsksFor dependency) :=
  Option.decidableExistsMem _

end Resource

theorem ModuleId.ofNode_eq_ok {node : Resource.Node} {own : ModuleId}
    (read : ofNode node = .ok own) :
    ∃ id name version, node.requireGuid "UUID" = .ok id ∧ node.require "Name" = .ok name ∧
      node.requireInteger "Version64" = .ok version ∧
      own = { id, name := some name, version := ⟨version⟩ } := by
  obtain ⟨id, hasId, read⟩ := exists_ok_of_bind read
  obtain ⟨name, hasName, read⟩ := exists_ok_of_bind read
  obtain ⟨version, hasVersion, read⟩ := exists_ok_of_bind read
  cases read
  exact ⟨id, name, version, hasId, hasName, hasVersion, rfl⟩

namespace Change

theorem mem_dependencies_applyAll {m : Module} {changes : List Change} {dependency : ModuleId} :
    dependency ∈ (applyAll m changes).dependencies ↔
      dependency ∈ m.dependencies ∨ addDependency dependency ∈ changes := by
  induction changes generalizing m with
  | nil => simp [applyAll]
  | cons change changes ih =>
    change dependency ∈ (applyAll (change.apply m) changes).dependencies ↔ _
    rw [ih, List.mem_cons]
    cases change with
    | addDependency other => simp [apply, or_assoc]
    | _ => simp [apply]

end Change

namespace Step

theorem mem_ofDependency {node : Resource.Node} {dependency : ModuleId}
    (read : ModuleId.ofNode node = .ok dependency) (valid : dependency.isValid = true) :
    .ok (.addDependency dependency) ∈ ofDependency node := by
  rw [ofDependency, read, after, if_pos valid]
  exact List.mem_singleton_self _

theorem mem_ofIdentity {resource : Resource} {own dependency : ModuleId}
    (states : resource.States own) (isOwn : own.isValid = true)
    (asks : resource.AsksFor dependency) (valid : dependency.isValid = true) :
    .ok (.addDependency dependency) ∈ ofIdentity resource := by
  obtain ⟨config, region, info, isInfo, ownRead⟩ := states
  obtain ⟨other, again, group, isGroup, node, isNode, read⟩ := asks
  obtain rfl : config = other := Option.some.inj (region.symm.trans again)
  obtain ⟨id, name, version, hasId, hasName, hasVersion, rfl⟩ := ModuleId.ofNode_eq_ok ownRead
  have groups : (config.childrenNamed "Dependencies").take 1 = [group] := by
    obtain ⟨others, whole⟩ := List.head?_eq_some_iff.1 isGroup
    rw [whole]
    rfl
  rw [ofIdentity, region]
  dsimp only
  rw [isInfo]
  dsimp only
  rw [ofInfo, hasId, hasName, hasVersion]
  simp only [after]
  rw [if_pos isOwn, groups, List.flatMap_singleton]
  refine List.mem_cons_of_mem _ (List.mem_cons_of_mem _ (List.mem_cons_of_mem _ ?_))
  exact List.mem_flatMap.2 ⟨node, isNode, mem_ofDependency read valid⟩

theorem mem_made_of_faultless {steps : List Step} (faultless : fault? steps = none)
    {change : Change} (member : .ok change ∈ steps) : change ∈ made steps := by
  rw [eq_made_of_faultless faultless] at member
  obtain ⟨other, inMade, same⟩ := List.mem_map.1 member
  exact Except.ok.inj same ▸ inMade

end Step

end FeatLoom
