import FeatLoom.Proofs.Merge

/-!
# Laws of merging

To merge is associative, field by field and so for snapshots as a whole, and to merge a snapshot
over itself changes nothing. Snapshots that are merged one after the other can therefore be merged
among themselves first, and a list of snapshots that comes twice in a row counts once.
-/

namespace FeatLoom

theorem mergeSet_assoc {α : Type} [HasUnset α] (first second third : α) :
    mergeSet (mergeSet first second) third = mergeSet first (mergeSet second third) := by
  unfold mergeSet
  by_cases set : HasUnset.isSet third
  · simp only [set, if_true]
  · simp only [set, if_false, Bool.false_eq_true]

theorem mergeSet_self {α : Type} [HasUnset α] (value : α) : mergeSet value value = value :=
  ite_self value

namespace Module

theorem mergeOver_assoc (first second third : Module) :
    (first.mergeOver second).mergeOver third = first.mergeOver (second.mergeOver third) := by
  simp only [mergeOver, mergeSet_assoc, mergeKeys, OrderedMap.union_assoc,
    OrderedMap.mergeNested_assoc]

theorem mergeOver_self (m : Module) : m.mergeOver m = m := by
  simp only [mergeOver, mergeSet_self, mergeKeys, OrderedMap.union_self,
    OrderedMap.mergeNested_self]

theorem foldl_mergeOver_mergeOver (m snapshot : Module) (snapshots : List Module) :
    snapshots.foldl mergeOver (m.mergeOver snapshot) =
      m.mergeOver (snapshots.foldl mergeOver snapshot) := by
  induction snapshots generalizing snapshot with
  | nil => rfl
  | cons next snapshots ih => rw [List.foldl_cons, List.foldl_cons, mergeOver_assoc, ih]

theorem foldl_mergeOver_twice (m : Module) (snapshots : List Module) :
    (snapshots ++ snapshots).foldl mergeOver m = snapshots.foldl mergeOver m := by
  cases snapshots with
  | nil => rfl
  | cons snapshot snapshots =>
    have merged (m : Module) : (snapshot :: snapshots).foldl mergeOver m =
        m.mergeOver (snapshots.foldl mergeOver snapshot) := foldl_mergeOver_mergeOver m ..
    rw [List.foldl_append, merged, merged, mergeOver_assoc, mergeOver_self]

end Module

end FeatLoom
