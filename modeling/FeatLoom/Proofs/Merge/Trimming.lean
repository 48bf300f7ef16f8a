import FeatLoom.Proofs.Merge

/-!
# Merged modules

Every name with snapshots has one merged module, which bears this name. Of the dependencies of its
snapshots it keeps those on names that have a merged module themselves.
-/

namespace FeatLoom

theorem Module.dependencyNames_trimDependencies (m : Module) (known : List String) :
    (m.trimDependencies known).dependencyNames = m.dependencyNames.filter known.contains := by
  rw [dependencyNames, trimDependencies, dependencyNames, List.filter_filterMap,
    List.filterMap_filter]
  apply List.filterMap_congr
  intro dependency _
  cases dependency.properName? with
  | none => rfl
  | some name => cases known.contains name <;> rfl

namespace Snapshots

variable {snapshots : Snapshots}

theorem mem_merge_iff {name : String} {m : Module} :
    (name, m) ∈ snapshots.merge.entries ↔ ∃ found, (name, found) ∈ snapshots.entries ∧
      found ≠ [] ∧ m = (Module.ofSnapshots name found).trimDependencies snapshots.merge.keys := by
  have keys : snapshots.merge.keys = snapshots.mergeEach.keys := OrderedMap.keys_mapValues ..
  rw [keys]
  simp only [merge, mergeEach, OrderedMap.mapValues, OrderedMap.filter, List.mem_map,
    List.mem_filter, Prod.exists, Prod.mk.injEq]
  constructor
  · rintro ⟨_, _, ⟨_, found, ⟨member, populated⟩, rfl, rfl⟩, rfl, rfl⟩
    exact ⟨found, member, by simpa using populated, rfl⟩
  · rintro ⟨found, member, populated, rfl⟩
    exact ⟨name, _, ⟨name, found, ⟨member, by simpa using populated⟩, rfl, rfl⟩, rfl, rfl⟩

theorem named_merge : ∀ entry ∈ snapshots.merge.entries, entry.2.name = some entry.1 := by
  rintro ⟨name, m⟩ member
  obtain ⟨found, _, _, rfl⟩ := mem_merge_iff.1 member
  exact (Module.isLastSet_foldl name (Module.isByVersion found).ascending).name_eq

end Snapshots

end FeatLoom
