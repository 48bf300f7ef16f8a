import FeatLoom.Merge
import FeatLoom.Proofs.OrderedMap.Overlay

/-!
# The last set value wins

Merging snapshots is a fold, but what comes out can be said field by field. A single value or a
list is the last one that is set, in the order of the versions; a map holds at every key what the
last snapshot with that key has there. The order in which snapshots were found matters only among
equal versions.
-/

namespace FeatLoom

theorem foldl_mergeSet {α : Type} [HasUnset α] (start : α) (values : List α) :
    values.foldl mergeSet start = (values.filter HasUnset.isSet).getLast?.getD start := by
  induction values using List.reverseRecOn with
  | nil => rfl
  | append_singleton values value ih =>
    rw [List.foldl_append, List.foldl_cons, List.foldl_nil, ih, mergeSet, List.filter_append]
    cases set : HasUnset.isSet value with
    | true => simp [set]
    | false => simp [set]

theorem number_foldl_mergeSet (start : Version) (versions : List Version) :
    (versions.foldl mergeSet start).number =
      (versions.map Version.number).foldl mergeSet start.number := by
  rw [List.foldl_map]
  refine (List.foldl_hom Version.number fun current incoming => ?_).symm
  exact (apply_ite Version.number _ incoming current).symm

theorem getLast?_eq_max? {values : List Int} (ascending : values.Pairwise (· ≤ ·)) :
    values.getLast? = values.max? := by
  induction values using List.reverseRecOn with
  | nil => rfl
  | append_singleton values value _ =>
    rw [List.pairwise_append] at ascending
    have greatest : (values ++ [value]).max? = some value := by
      rw [List.max?_eq_some_iff]
      refine ⟨by simp, ?_⟩
      intro other member
      rcases List.mem_append.1 member with earlier | last
      · exact ascending.2.2 other earlier value (List.mem_singleton_self value)
      · exact Int.le_of_eq (List.mem_singleton.1 last)
    rw [greatest, List.getLast?_concat]

namespace Module

def rank (m : Module) : Int := m.version.number

def listIds (m : Module) (kind : ListKind) : List Guid := (m.lists.innerAt kind).keys

theorem candidates?_eq (m : Module) (kind : ListKind) (list : Guid) :
    m.candidates? kind list = (m.lists.innerAt kind).get? list := by
  rw [candidates?, OrderedMap.innerAt]
  cases m.lists.get? kind with
  | none => rfl
  | some lists => rfl

/-! ## The order of the snapshots -/

/-- Snapshots in the order of their versions; those of one version stand as they were found. -/
structure IsByVersion (found ordered : List Module) : Prop where
  perm : ordered.Perm found
  ascending : ordered.Pairwise fun a b => a.rank ≤ b.rank
  stable : ∀ version, ordered.filter (fun s => s.rank = version) =
    found.filter fun s => s.rank = version

theorem isByVersion (found : List Module) : IsByVersion found (byVersion found) := by
  have transitive (a b c : Module) (first : decide (a.rank ≤ b.rank) = true)
      (second : decide (b.rank ≤ c.rank) = true) : decide (a.rank ≤ c.rank) = true := by
    simp only [decide_eq_true_eq] at first second ⊢
    omega
  have total (a b : Module) :
      (decide (a.rank ≤ b.rank) || decide (b.rank ≤ a.rank)) = true := by
    simp only [Bool.or_eq_true, decide_eq_true_eq]
    omega
  have perm : (byVersion found).Perm found := List.mergeSort_perm ..
  refine ⟨perm, ?_, ?_⟩
  · have sorted := List.pairwise_mergeSort transitive total found
    exact sorted.imp fun before => of_decide_eq_true before
  · intro version
    -- The snapshots of one version are in order already, and sorting keeps such a sublist.
    have level : (found.filter fun s => s.rank = version).Pairwise
        fun a b => decide (a.rank ≤ b.rank) = true := by
      rw [List.pairwise_filter]
      refine List.pairwise_of_forall_mem_list fun a _ b _ first second => ?_
      simp only [decide_eq_true_eq] at first second ⊢
      omega
    have kept := (List.sublist_mergeSort transitive total level List.filter_sublist).filter
      fun s => decide (s.rank = version)
    simp only [List.filter_filter, Bool.and_self] at kept
    exact (kept.eq_of_length (perm.filter _).length_eq.symm).symm

/-- Where no version comes twice, the order does not depend on how the snapshots were found. -/
theorem byVersion_perm {found others : List Module} (distinct : (found.map rank).Nodup)
    (same : others.Perm found) : byVersion others = byVersion found := by
  have ordered := isByVersion found
  have reordered := isByVersion others
  have versions : ((byVersion found).map rank).Nodup := (ordered.perm.map rank).nodup_iff.2 distinct
  have all : (byVersion others).Perm (byVersion found) :=
    (reordered.perm.trans same).trans ordered.perm.symm
  refine all.eq_of_pairwise ?_ reordered.ascending ordered.ascending
  intro a b inOthers inFound before after
  have equal : a.rank = b.rank := Int.le_antisymm before after
  exact List.inj_on_of_nodup_map versions (all.mem_iff.1 inOthers) inFound equal

/-! ## The fold of the fields -/

theorem foldl_mergeOver (m : Module) (snapshots : List Module) :
    snapshots.foldl mergeOver m =
      { m with
        id := (snapshots.map fun s => s.id).foldl mergeSet m.id
        version := (snapshots.map fun s => s.version).foldl mergeSet m.version
        descriptions := (snapshots.map descriptions).foldl mergeSet m.descriptions
        feats := (snapshots.map feats).foldl mergeSet m.feats
        dependencies := (snapshots.map dependencies).foldl mergeSet m.dependencies
        stats := (snapshots.map stats).foldl OrderedMap.union m.stats
        lists := (snapshots.map lists).foldl mergeNested m.lists } := by
  induction snapshots generalizing m with
  | nil => rfl
  | cons snapshot snapshots ih =>
    rw [List.foldl_cons, ih]
    rfl

/-- The module that has of every field the last value that is set in the snapshots: single values
and lists as a whole, maps key by key with the keys in the order in which they come up first. -/
structure IsLastSet (name : String) (ordered : List Module) (m : Module) : Prop where
  name_eq : m.name = some name
  id_eq : m.id = ((ordered.map fun s => s.id).filter fun id => !id.isNil).getLast?.getD Guid.nil
  version_eq : m.rank = ((ordered.map rank).filter (· != 0)).max?.getD 0
  descriptions_eq : m.descriptions =
    ((ordered.map descriptions).filter fun d => !d.isEmpty).getLast?.getD OrderedMap.empty
  feats_eq : m.feats = ((ordered.map feats).filter fun f => !f.isEmpty).getLast?.getD []
  dependencies_eq : m.dependencies =
    ((ordered.map dependencies).filter fun d => !d.isEmpty).getLast?.getD []
  stat_eq : ∀ stat, m.stats.get? stat = (ordered.filterMap fun s => s.stats.get? stat).getLast?
  stats_keys : m.stats.keys = (ordered.flatMap fun s => s.stats.keys).eraseDups
  candidates_eq : ∀ kind list, m.candidates? kind list =
    (ordered.filterMap fun s => s.candidates? kind list).getLast?
  lists_keys : m.lists.keys = (ordered.flatMap fun s => s.lists.keys).eraseDups
  listIds_eq : ∀ kind, m.listIds kind = (ordered.flatMap fun s => s.listIds kind).eraseDups

theorem isLastSet_foldl (name : String) {ordered : List Module}
    (ascending : ordered.Pairwise fun a b => a.rank ≤ b.rank) :
    IsLastSet name ordered (ordered.foldl mergeOver { name := some name }) := by
  rw [foldl_mergeOver]
  refine ⟨rfl, foldl_mergeSet .., ?_, foldl_mergeSet .., foldl_mergeSet .., foldl_mergeSet .., ?_,
    ?_, ?_, ?_, ?_⟩
  · have ranks : ((ordered.map rank).filter (· != 0)).Pairwise (· ≤ ·) :=
      (List.pairwise_map.2 ascending).filter _
    rw [← getLast?_eq_max? ranks, rank, number_foldl_mergeSet, List.map_map]
    exact foldl_mergeSet ..
  · intro stat
    rw [OrderedMap.get?_foldl_union, List.filterMap_map]
    exact Option.or_none
  · rw [OrderedMap.keys_foldl OrderedMap.keys_union, List.flatMap_map]
    rfl
  · intro kind list
    rw [candidates?_eq, OrderedMap.innerAt_foldl_mergeNested, OrderedMap.get?_foldl_union,
      List.filterMap_map, List.filterMap_filterMap]
    exact Option.or_none
  · rw [OrderedMap.keys_foldl OrderedMap.keys_mergeNested, List.flatMap_map]
    rfl
  · intro kind
    rw [listIds, OrderedMap.innerAt_foldl_mergeNested, OrderedMap.keys_foldl OrderedMap.keys_union,
      List.filterMap_map, List.filterMap_eq_flatMap_toList, List.flatMap_assoc]
    have inner : (fun s : Module => (s.lists.get? kind).toList.flatMap OrderedMap.keys) =
        fun s => s.listIds kind := by
      funext s
      rw [listIds, OrderedMap.innerAt]
      cases s.lists.get? kind with
      | none => rfl
      | some lists => exact List.flatMap_singleton ..
    exact congrArg (fun ids => (ordered.flatMap ids).eraseDups) inner

/-! ## What stays populated -/

def holds (m : Module) : ModuleField → Bool
  | .id => !m.id.isNil
  | .version => m.rank != 0
  | .descriptions => !m.descriptions.isEmpty
  | .feats => !m.feats.isEmpty
  | .dependencies => !m.dependencies.isEmpty
  | .stats => !m.stats.isEmpty
  | .lists => !m.lists.isEmpty

theorem isSet_mergeSet {α : Type} [HasUnset α] (current incoming : α) :
    HasUnset.isSet (mergeSet current incoming) =
      (HasUnset.isSet current || HasUnset.isSet incoming) := by
  unfold mergeSet
  cases set : HasUnset.isSet incoming with
  | true => simp [set]
  | false => simp

theorem isEmpty_of_keys {κ ν : Type} [DecidableEq κ] {base later merged : OrderedMap κ ν}
    (keys : merged.keys = (base.keys ++ later.keys).eraseDups) :
    (!merged.isEmpty) = (!base.isEmpty || !later.isEmpty) := by
  have populated (m : OrderedMap κ ν) : m.isEmpty = false ↔ ∃ key, key ∈ m.keys := by
    rw [OrderedMap.isEmpty, OrderedMap.keys, List.isEmpty_eq_false_iff_exists_mem]
    simp
  rw [Bool.eq_iff_iff, Bool.or_eq_true, Bool.not_eq_true', Bool.not_eq_true', Bool.not_eq_true',
    populated, populated, populated, keys]
  simp only [List.mem_eraseDups, List.mem_append, exists_or]

theorem holds_mergeOver (m snapshot : Module) (field : ModuleField) :
    (m.mergeOver snapshot).holds field = (m.holds field || snapshot.holds field) := by
  cases field with
  | id => exact isSet_mergeSet m.id snapshot.id
  | version => exact isSet_mergeSet m.version snapshot.version
  | descriptions => exact isSet_mergeSet m.descriptions snapshot.descriptions
  | feats => exact isSet_mergeSet m.feats snapshot.feats
  | dependencies => exact isSet_mergeSet m.dependencies snapshot.dependencies
  | stats => exact isEmpty_of_keys (OrderedMap.keys_union m.stats snapshot.stats)
  | lists => exact isEmpty_of_keys (OrderedMap.keys_mergeNested m.lists snapshot.lists)

theorem holds_foldl_mergeOver (m : Module) (snapshots : List Module) (field : ModuleField) :
    (snapshots.foldl mergeOver m).holds field =
      (m.holds field || snapshots.any fun s => s.holds field) := by
  induction snapshots generalizing m with
  | nil => simp
  | cons snapshot snapshots ih =>
    rw [List.foldl_cons, ih, holds_mergeOver, List.any_cons, Bool.or_assoc]

theorem holds_ofSnapshots (name : String) (found : List Module) (field : ModuleField) :
    (ofSnapshots name found).holds field = found.any fun s => s.holds field := by
  have unset : ({ name := some name } : Module).holds field = false := by cases field <;> rfl
  rw [ofSnapshots, holds_foldl_mergeOver, unset, Bool.false_or]
  exact (isByVersion found).perm.any_eq

/-- Merging snapshots gives, field by field, the last value that is set in the order of their
versions. A field is unset only if it is unset in all snapshots, and where no version comes twice
the result does not depend on the order in which the snapshots were found. -/
theorem ofSnapshots_last_set (name : String) (found : List Module) :
    IsByVersion found (byVersion found) ∧
      IsLastSet name (byVersion found) (ofSnapshots name found) ∧
      (∀ field, (ofSnapshots name found).holds field = found.any fun s => s.holds field) ∧
      ((found.map rank).Nodup → ∀ others : List Module, others.Perm found →
        ofSnapshots name others = ofSnapshots name found) := by
  have ordered := isByVersion found
  refine ⟨ordered, isLastSet_foldl name ordered.ascending, holds_ofSnapshots name found, ?_⟩
  intro distinct others same
  rw [ofSnapshots, byVersion_perm distinct same, ofSnapshots]

/-- The later snapshot is found first; it has neither an identifier nor feats. -/
theorem ofSnapshots_last_set_swapped :
    let early : Module :=
      { id := Guid.ofNat 7, version := ⟨-2⟩, feats := [{ id := Guid.ofNat 8, name := "Gift" }] }
    let late : Module := { version := ⟨3⟩, lists := .ofList [(.skill, OrderedMap.empty)] }
    let merged := ofSnapshots "Main" [late, early]
    ([late, early].map rank).Nodup ∧ [early, late].Perm [late, early] ∧
      ofSnapshots "Main" [early, late] = merged ∧ merged.name = some "Main" ∧
      merged.holds .id = true ∧ merged.holds .feats = true ∧ merged.holds .lists = true ∧
      merged.holds .stats = false := by
  intro early late merged
  have distinct : ([late, early].map rank).Nodup := by decide
  have swapped : [early, late].Perm [late, early] := .swap ..
  obtain ⟨_, lastSet, holds, stable⟩ := ofSnapshots_last_set "Main" [late, early]
  refine ⟨distinct, swapped, stable distinct _ swapped, lastSet.name_eq, ?_, ?_, ?_, ?_⟩
  · rw [holds .id]
    decide
  · rw [holds .feats]
    decide
  · rw [holds .lists]
    decide
  · rw [holds .stats]
    decide

end Module

end FeatLoom
