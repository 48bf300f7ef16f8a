import FeatLoom.LoadOrder
import FeatLoom.Proofs.Discovery
import FeatLoom.Proofs.Merge.Laws
import FeatLoom.Proofs.OrderedMap.Gather
import Mathlib.Data.Finset.Sort

/-!
# Finding everything twice

When the packages are read twice over, the snapshots of a module come twice, the second time after
all those of the first time. In the order of the versions those of one version stand together, so
each such group comes twice in a row and counts once. What is merged is therefore the same, and so
is the order of the modules or the reason why there is none.
-/

namespace FeatLoom

namespace Module

/-! ## The groups of one version -/

def ofVersion (found : List Module) (version : Int) : List Module :=
  found.filter fun s => s.rank = version

theorem rank_of_mem_ofVersion {found : List Module} {version : Int} {s : Module}
    (member : s ∈ ofVersion found version) : s.rank = version :=
  of_decide_eq_true (List.mem_filter.1 member).2

theorem mem_ofVersion_rank {found : List Module} {s : Module} (member : s ∈ found) :
    s ∈ ofVersion found s.rank :=
  List.mem_filter.2 ⟨member, decide_eq_true rfl⟩

/-- In the order of their versions snapshots are determined by the groups of one version. -/
theorem eq_of_ofVersion_eq {first second : List Module}
    (ascending : first.Pairwise fun a b => a.rank ≤ b.rank)
    (ascending' : second.Pairwise fun a b => a.rank ≤ b.rank)
    (same : ofVersion first = ofVersion second) : first = second := by
  have subset {these others : List Module} (same : ofVersion these = ofVersion others) :
      ∀ s ∈ these, s ∈ others := by
    intro s member
    have grouped := mem_ofVersion_rank member
    rw [same] at grouped
    exact List.mem_of_mem_filter grouped
  induction first generalizing second with
  | nil => exact (List.eq_nil_iff_forall_not_mem.2 fun s member =>
      List.not_mem_nil (subset same.symm s member)).symm
  | cons a first ih =>
    cases second with
    | nil => exact absurd (subset same a List.mem_cons_self) List.not_mem_nil
    | cons b second =>
      rw [List.pairwise_cons] at ascending ascending'
      -- Both heads have the least version, so they head the same group.
      have level : a.rank = b.rank := by
        apply Int.le_antisymm
        · rcases List.mem_cons.1 (subset same.symm b List.mem_cons_self) with rfl | later
          · exact Int.le_refl _
          · exact ascending.1 b later
        · rcases List.mem_cons.1 (subset same a List.mem_cons_self) with rfl | later
          · exact Int.le_refl _
          · exact ascending'.1 a later
      have group := congrFun same b.rank
      simp only [ofVersion, level, List.filter_cons_of_pos, decide_true] at group
      obtain ⟨rfl, _⟩ := List.cons.inj group
      rw [ih ascending.2 ascending'.2]
      funext version
      have whole := congrFun same version
      by_cases own : a.rank = version <;> simpa [ofVersion, own] using whole

theorem ofVersion_flatMap {found : List Module} {versions : List Int} (distinct : versions.Nodup)
    (all : ∀ s ∈ found, s.rank ∈ versions) :
    ofVersion (versions.flatMap (ofVersion found)) = ofVersion found := by
  funext version
  have others : ∀ other ∈ versions, decide (other = version) = false →
      ofVersion (ofVersion found other) version = [] := by
    intro other _ different
    refine List.filter_eq_nil_iff.2 fun s member => ?_
    rw [rank_of_mem_ofVersion member, different]
    exact Bool.false_ne_true
  have own : ofVersion (ofVersion found version) version = ofVersion found version :=
    List.filter_eq_self.2 fun s member => decide_eq_true (rank_of_mem_ofVersion member)
  calc
    ofVersion (versions.flatMap (ofVersion found)) version
      = versions.flatMap fun other => ofVersion (ofVersion found other) version :=
        List.filter_flatMap ..
    _ = (versions.filter (· = version)).flatMap fun other =>
          ofVersion (ofVersion found other) version := (OrderedMap.flatMap_filter others).symm
    _ = ofVersion found version := by
      rw [List.filter_eq]
      by_cases known : version ∈ versions
      · rw [List.count_eq_one_of_mem distinct known, List.replicate_one, List.flatMap_singleton,
          own]
      · rw [List.count_eq_zero_of_not_mem known, List.replicate_zero, List.flatMap_nil]
        refine (List.filter_eq_nil_iff.2 fun s member => ?_).symm
        rw [decide_eq_true_eq]
        rintro rfl
        exact known (all s member)

theorem byVersion_eq_flatMap {found : List Module} {versions : List Int}
    (ascending : versions.Pairwise (· < ·)) (all : ∀ s ∈ found, s.rank ∈ versions) :
    byVersion found = versions.flatMap (ofVersion found) := by
  have ordered := isByVersion found
  have distinct : versions.Nodup := ascending.imp Int.ne_of_lt
  apply eq_of_ofVersion_eq ordered.ascending
  · rw [List.pairwise_flatMap]
    constructor
    · intro version _
      refine List.pairwise_of_forall_mem_list fun a inGroup b inGroup' => ?_
      rw [rank_of_mem_ofVersion inGroup, rank_of_mem_ofVersion inGroup']
    · refine ascending.imp fun before a inFirst b inSecond => ?_
      rw [rank_of_mem_ofVersion inFirst, rank_of_mem_ofVersion inSecond]
      exact Int.le_of_lt before
  · rw [ofVersion_flatMap distinct all]
    exact funext ordered.stable

theorem ofSnapshots_twice (name : String) (found : List Module) :
    ofSnapshots name (found ++ found) = ofSnapshots name found := by
  let versions := (found.map rank).toFinset.sort
  have ascending : versions.Pairwise (· < ·) := (Finset.sortedLT_sort _).pairwise
  have once : ∀ s ∈ found, s.rank ∈ versions := by
    intro s member
    rw [Finset.mem_sort, List.mem_toFinset]
    exact List.mem_map_of_mem member
  have twice : ∀ s ∈ found ++ found, s.rank ∈ versions :=
    fun s member => once s ((List.mem_append.1 member).elim id id)
  have group (version : Int) : ofVersion (found ++ found) version =
      ofVersion found version ++ ofVersion found version := List.filter_append ..
  rw [ofSnapshots, ofSnapshots, byVersion_eq_flatMap ascending once,
    byVersion_eq_flatMap ascending twice, List.foldl_flatMap, List.foldl_flatMap]
  refine List.foldl_ext _ _ _ fun m version _ => ?_
  rw [group, foldl_mergeOver_twice]

end Module

namespace Snapshots

def twice (snapshots : Snapshots) : Snapshots := snapshots.mapValues fun _ found => found ++ found

theorem mergeEach_twice (snapshots : Snapshots) :
    snapshots.twice.mergeEach = snapshots.mergeEach := by
  apply OrderedMap.ext
  change ((snapshots.entries.map fun entry => (entry.1, entry.2 ++ entry.2)).filter
      fun entry : String × List Module => !entry.2.isEmpty).map
        (fun entry => (entry.1, Module.ofSnapshots entry.1 entry.2)) =
    (snapshots.entries.filter fun entry => !entry.2.isEmpty).map
      fun entry => (entry.1, Module.ofSnapshots entry.1 entry.2)
  have populated : ((fun entry : String × List Module => !entry.2.isEmpty) ∘
      fun entry : String × List Module => (entry.1, entry.2 ++ entry.2)) =
        fun entry => !entry.2.isEmpty := by
    funext ⟨_, found⟩
    cases found <;> rfl
  rw [List.filter_map, List.map_map, populated]
  refine List.map_congr_left fun entry _ => ?_
  rw [Function.comp_apply, Module.ofSnapshots_twice]

theorem merge_twice (snapshots : Snapshots) : snapshots.twice.merge = snapshots.merge := by
  rw [merge, merge, mergeEach_twice]

theorem gather_twice [Nesting] (tree : FileTree) (patterns : List String) (installs : List FilePath) :
    gather tree patterns (installs ++ installs) = (gather tree patterns installs).map twice := by
  rw [gather, gather, List.flatMap_append, List.foldlM_append, foldlM_addPackage]
  cases found : foundIn tree (installs.flatMap (tree.packages patterns)) with
  | error fault => rfl
  | ok items =>
    refine (foldlM_addPackage tree _ (OrderedMap.empty.appendAll items)).trans ?_
    rw [found]
    exact congrArg Except.ok (OrderedMap.appendAll_appendAll_self items)

/-- To find every snapshot twice over, as gathering does when it is given the install paths twice
over, changes neither the merged modules nor what comes of ordering them. -/
theorem loadOrder_merge_twice [Nesting] :
    (∀ snapshots : Snapshots, snapshots.twice.merge = snapshots.merge ∧
      ∀ anchors, loadOrder snapshots.twice.merge anchors = loadOrder snapshots.merge anchors) ∧
    ∀ (tree : FileTree) (patterns : List String) (installs : List FilePath),
      gather tree patterns (installs ++ installs) = (gather tree patterns installs).map twice := by
  refine ⟨fun snapshots => ?_, gather_twice⟩
  have same := merge_twice snapshots
  refine ⟨same, fun anchors => ?_⟩
  rw [same]

end Snapshots

end FeatLoom
