import FeatLoom.Proofs.Merge.Laws

/-!
# Patches merged beforehand

Every merge policy makes an idempotent monoid of each kind of value that it is for: what is unset
counts for nothing on either side, and to merge is associative and idempotent, the order of keys
included. Each field of a module is merged by its policy, so the same holds of modules, and where
snapshots come in the order of their versions, the later ones can be merged among themselves first.
-/

namespace FeatLoom

/-- The laws of merging values of which one stands for nothing said. -/
structure IsIdempotentMonoid {α : Type} (merge : α → α → α) (unset : α) : Prop where
  assoc : ∀ first second third,
    merge (merge first second) third = merge first (merge second third)
  unset_merge : ∀ value, merge unset value = value
  merge_unset : ∀ value, merge value unset = value
  merge_self : ∀ value, merge value value = value

theorem isIdempotentMonoid_mergeSet {α : Type} [HasUnset α] {unset : α}
    (isUnset : ∀ value : α, HasUnset.isSet value = false ↔ value = unset) :
    IsIdempotentMonoid mergeSet unset where
  assoc := mergeSet_assoc
  merge_self := mergeSet_self
  merge_unset value := by
    have nothing := (isUnset unset).2 rfl
    rw [mergeSet, nothing, if_neg Bool.false_ne_true]
  unset_merge value := by
    unfold mergeSet
    cases set : HasUnset.isSet value with
    | true => rfl
    | false => exact ((isUnset value).1 set).symm

namespace OrderedMap

theorem isEmpty_eq_true_iff {κ ν : Type} {m : OrderedMap κ ν} : m.isEmpty = true ↔ m = empty := by
  rw [isEmpty, List.isEmpty_iff]
  exact ⟨fun none => ext none, congrArg entries⟩

variable {κ ι ν : Type} [DecidableEq κ] [DecidableEq ι]

theorem isIdempotentMonoid_union :
    IsIdempotentMonoid (union : OrderedMap κ ν → OrderedMap κ ν → OrderedMap κ ν) empty where
  assoc := union_assoc
  unset_merge := empty_union
  merge_unset _ := rfl
  merge_self := union_self

theorem empty_mergeNested (m : OrderedMap κ (OrderedMap ι ν)) : mergeNested empty m = m := by
  apply eq_of_keys_of_get?
  · rw [keys_mergeNested, keys_empty, List.nil_append, eraseDups_eq_self m.nodup_keys]
  · intro key
    have nothing : (empty : OrderedMap κ (OrderedMap ι ν)).innerAt key = empty := rfl
    rw [get?_mergeNested, nothing]
    cases m.get? key with
    | none => rfl
    | some inner => exact congrArg some (empty_union inner)

theorem isIdempotentMonoid_mergeNested :
    IsIdempotentMonoid (mergeNested : OrderedMap κ (OrderedMap ι ν) → _ → _) empty where
  assoc := mergeNested_assoc
  unset_merge := empty_mergeNested
  merge_unset _ := rfl
  merge_self := mergeNested_self

end OrderedMap

namespace MergePolicy

inductive Kind : MergePolicy → Type → Type 1 where
  | identifier : Kind overrideIfSet Guid
  | integer : Kind overrideIfSet Int
  | version : Kind overrideIfSet Version
  | list (α : Type) : Kind replaceIfNonempty (List α)
  | map (κ ν : Type) : Kind replaceIfNonempty (OrderedMap κ ν)
  | keyed (κ ν : Type) [DecidableEq κ] : Kind perKeyOverride (OrderedMap κ ν)
  | nested (κ ι ν : Type) [DecidableEq κ] [DecidableEq ι] :
      Kind nestedPerKeyOverride (OrderedMap κ (OrderedMap ι ν))

namespace Kind

variable {policy : MergePolicy} {α : Type}

def merge : Kind policy α → α → α → α
  | identifier => mergeSet
  | integer => mergeSet
  | version => mergeSet
  | list _ => mergeSet
  | map _ _ => mergeSet
  | keyed _ _ => mergeKeys
  | nested _ _ _ => mergeNested

def unset : Kind policy α → α
  | identifier => Guid.nil
  | integer => 0
  | version => Version.zero
  | list _ => []
  | map _ _ => OrderedMap.empty
  | keyed _ _ => OrderedMap.empty
  | nested _ _ _ => OrderedMap.empty

theorem isIdempotentMonoid (kind : Kind policy α) : IsIdempotentMonoid kind.merge kind.unset := by
  cases kind with
  | identifier =>
    have isUnset (id : Guid) : HasUnset.isSet id = false ↔ id = Guid.nil := by
      simp [HasUnset.isSet, Guid.isNil]
    exact isIdempotentMonoid_mergeSet isUnset
  | integer =>
    have isUnset (n : Int) : HasUnset.isSet n = false ↔ n = 0 := by simp [HasUnset.isSet]
    exact isIdempotentMonoid_mergeSet isUnset
  | version =>
    have isUnset : ∀ v : Version, HasUnset.isSet v = false ↔ v = Version.zero := by
      rintro ⟨number⟩
      simp [HasUnset.isSet, Version.zero]
    exact isIdempotentMonoid_mergeSet isUnset
  | list α =>
    have isUnset (items : List α) : HasUnset.isSet items = false ↔ items = [] := by
      simp [HasUnset.isSet]
    exact isIdempotentMonoid_mergeSet isUnset
  | map κ ν =>
    have isUnset (m : OrderedMap κ ν) : HasUnset.isSet m = false ↔ m = OrderedMap.empty := by
      simp [HasUnset.isSet, OrderedMap.isEmpty_eq_true_iff]
    exact isIdempotentMonoid_mergeSet isUnset
  | keyed => exact OrderedMap.isIdempotentMonoid_union
  | nested => exact OrderedMap.isIdempotentMonoid_mergeNested

end Kind

end MergePolicy

namespace ModuleField

def Value : ModuleField → Type
  | id => Guid
  | version => Version
  | descriptions => OrderedMap Guid FeatDescription
  | feats => List Feat
  | dependencies => List ModuleId
  | stats => OrderedMap String StatEntry
  | lists => CandidateLists

def valueOf (m : Module) : (field : ModuleField) → field.Value
  | id => m.id
  | version => m.version
  | descriptions => m.descriptions
  | feats => m.feats
  | dependencies => m.dependencies
  | stats => m.stats
  | lists => m.lists

def kind : (field : ModuleField) → field.policy.Kind field.Value
  | id => .identifier
  | version => .version
  | descriptions => .map Guid FeatDescription
  | feats => .list Feat
  | dependencies => .list ModuleId
  | stats => .keyed String StatEntry
  | lists => .nested ListKind Guid (List String)

/-- Every field is merged as its policy says. -/
theorem valueOf_mergeOver (field : ModuleField) (m snapshot : Module) :
    field.valueOf (m.mergeOver snapshot) =
      field.kind.merge (field.valueOf m) (field.valueOf snapshot) := by
  cases field <;> rfl

end ModuleField

namespace Module

theorem eq_of_fields {m other : Module} (name : m.name = other.name)
    (package : m.package = other.package)
    (fields : ∀ field : ModuleField, field.valueOf m = field.valueOf other) : m = other := by
  obtain ⟨⟨_, _, _⟩, _, _, _, _, _, _⟩ := m
  obtain ⟨⟨_, _, _⟩, _, _, _, _, _, _⟩ := other
  obtain rfl : _ = _ := fields .id
  obtain rfl : _ = _ := fields .version
  obtain rfl : _ = _ := fields .descriptions
  obtain rfl : _ = _ := fields .feats
  obtain rfl : _ = _ := fields .dependencies
  obtain rfl : _ = _ := fields .stats
  obtain rfl : _ = _ := fields .lists
  obtain rfl : _ = _ := name
  obtain rfl : _ = _ := package
  rfl

theorem mergeOver_named (m : Module) (name : String) :
    m.mergeOver { name := some name } = m := by
  refine eq_of_fields rfl rfl fun field => ?_
  have nothing : field.valueOf { name := some name } = field.kind.unset := by cases field <;> rfl
  rw [ModuleField.valueOf_mergeOver, nothing, field.kind.isIdempotentMonoid.merge_unset]

theorem foldl_mergeOver_eq (m : Module) (name : String) (snapshots : List Module) :
    snapshots.foldl mergeOver m = m.mergeOver (snapshots.foldl mergeOver { name := some name }) := by
  cases snapshots with
  | nil => exact (m.mergeOver_named name).symm
  | cons snapshot snapshots =>
    rw [List.foldl_cons, List.foldl_cons, foldl_mergeOver_mergeOver, foldl_mergeOver_mergeOver,
      ← mergeOver_assoc, mergeOver_named]

theorem byVersion_of_ascending {snapshots : List Module}
    (ascending : snapshots.Pairwise fun a b => a.rank ≤ b.rank) :
    byVersion snapshots = snapshots :=
  List.mergeSort_of_pairwise (ascending.imp fun before => decide_eq_true before)

theorem ofSnapshots_append (name : String) {first second : List Module}
    (ascending : (first ++ second).Pairwise fun a b => a.rank ≤ b.rank) :
    ofSnapshots name (first ++ second) =
      (ofSnapshots name first).mergeOver (ofSnapshots name second) := by
  have parts := List.pairwise_append.1 ascending
  rw [ofSnapshots, ofSnapshots, ofSnapshots, byVersion_of_ascending ascending,
    byVersion_of_ascending parts.1, byVersion_of_ascending parts.2.1, List.foldl_append,
    foldl_mergeOver_eq _ name]

/-- The four policies are idempotent monoids of the values that they are for, and every field of a
module is merged by its policy. So where snapshots come in the order of their versions, those from
any point on can be merged beforehand. -/
theorem merge_in_patches :
    (∀ (policy : MergePolicy) (α : Type) (kind : policy.Kind α),
      IsIdempotentMonoid kind.merge kind.unset) ∧
      (∀ (field : ModuleField) (m snapshot : Module), field.valueOf (m.mergeOver snapshot) =
        field.kind.merge (field.valueOf m) (field.valueOf snapshot)) ∧
      ∀ (name : String) (first second : List Module),
        ((first ++ second).Pairwise fun a b => a.rank ≤ b.rank) →
          ofSnapshots name (first ++ second) =
            (ofSnapshots name first).mergeOver (ofSnapshots name second) :=
  ⟨fun _ _ kind => kind.isIdempotentMonoid, ModuleField.valueOf_mergeOver,
    fun name _ _ ascending => ofSnapshots_append name ascending⟩

/-- Two patches of one version, which disagree on a list, are cut apart or merged beforehand. -/
theorem merge_in_patches_tied :
    let listing (names : List String) : OrderedMap Guid (List String) := .ofList [(Guid.nil, names)]
    let base : Module :=
      { version := ⟨-2⟩, lists := .ofList [(.skill, listing ["Stealth"]), (.ability, .empty)] }
    let first : Module := { version := ⟨3⟩, lists := .ofList [(.ability, listing ["Wisdom"])] }
    let second : Module := { version := ⟨3⟩, lists := .ofList [(.ability, listing ["Strength"])] }
    let merged := ofSnapshots "Main" [base, first, second]
    ([base, first, second].Pairwise fun a b => a.rank ≤ b.rank) ∧
      merged = (ofSnapshots "Main" [base, first]).mergeOver (ofSnapshots "Main" [second]) ∧
      merged = (ofSnapshots "Main" [base]).mergeOver (ofSnapshots "Main" [first, second]) ∧
      merged.candidates? .ability Guid.nil = some ["Strength"] := by
  intro listing base first second merged
  have ascending : [base, first, second].Pairwise fun a b => a.rank ≤ b.rank := by decide
  have late := merge_in_patches.2.2 "Main" [base, first] [second] ascending
  have early := merge_in_patches.2.2 "Main" [base] [first, second] ascending
  refine ⟨ascending, late, early, ?_⟩
  have sorted : merged = [base, first, second].foldl mergeOver { name := some "Main" } :=
    congrArg (List.foldl mergeOver _) (byVersion_of_ascending ascending)
  rw [sorted]
  decide

end Module

end FeatLoom
