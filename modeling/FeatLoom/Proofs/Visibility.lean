import FeatLoom.Build
import FeatLoom.Proofs.LoadOrder.Precedence
import FeatLoom.Proofs.Lookup
import FeatLoom.Proofs.Merge.Trimming

/-!
# What merged modules see

A loom has the modules of the load order in reverse, so below a module that is no anchor stands all
that it builds on: the anchors, and what its dependencies lead to. A look-up from there fails only
where none of these has a definition, and what the module defines itself is found first.
-/

namespace FeatLoom

open LoadOrder

namespace Build

/-- A module that stands at a vantage, or one that it builds on. -/
def IsVisible (merged : OrderedMap String Module) (anchors : List String) (vantage : Vantage)
    (m : Module) : Prop :=
  m = vantage.module ∨ ∃ name other, vantage.module.name = some name ∧
    merged.get? other = some m ∧ BuildsOn merged anchors name other

theorem mem_below {snapshots : Snapshots} {anchors : List String} {ordered : List Module}
    (ok : loadOrder snapshots.merge anchors = .ok ordered) {vantage : Vantage}
    (member : vantage ∈ Vantage.all ordered.reverse) {name : String}
    (isNamed : vantage.module.name = some name) (isFree : name ∉ anchors) {other : String}
    {m : Module} (listed : snapshots.merge.get? other = some m)
    (builds : BuildsOn snapshots.merge anchors name other) : m ∈ vantage.below := by
  obtain ⟨above, whole⟩ := Vantage.stack_suffix member
  have split : ordered = vantage.below.reverse ++ vantage.module :: above.reverse := by
    rw [← List.reverse_reverse ordered, ← whole, Vantage.stack]
    simp
  have isOrdered := isOrdered_of_loadOrder Snapshots.named_merge ok
  exact List.mem_reverse.1
    (isOrdered.mem_before Snapshots.named_merge split isNamed isFree listed builds)

/-- In a loom of merged modules in load order, the anchors and all that the dependencies of a module
lead to stand below it. A look-up from the module fails only if neither the module nor one of these
has a definition, and the definition of the module itself is the one that is found. -/
theorem loom_sees_dependencies [Nesting] (snapshots : Snapshots) (anchors : List String)
    (settings : Settings) {ordered : List Module} {loom : Loom}
    (ok : loadOrder snapshots.merge anchors = .ok ordered)
    (reversed : Build.loom settings ordered = .ok loom) :
    ∀ vantage ∈ Vantage.all loom.modules, ∀ name, vantage.module.name = some name →
      name ∉ anchors →
        (∀ other m, snapshots.merge.get? other = some m →
          BuildsOn snapshots.merge anchors name other → m ∈ vantage.below) ∧
        (∀ kind list,
          (Lookup.supplier? kind list vantage.stack = none →
            ∀ m, IsVisible snapshots.merge anchors vantage m → m.candidates? kind list = none) ∧
          ∀ candidates, vantage.module.candidates? kind list = some candidates →
            Lookup.supplier? kind list vantage.stack = some (vantage, candidates)) ∧
        (∀ feat,
          (Lookup.description? vantage.stack feat = none →
            ∀ m, IsVisible snapshots.merge anchors vantage m → m.descriptions.get? feat = none) ∧
          ∀ description, vantage.module.descriptions.get? feat = some description →
            Lookup.description? vantage.stack feat = some description) ∧
        ∀ stat,
          (Lookup.stat? vantage.stack stat = none →
            ∀ m, IsVisible snapshots.merge anchors vantage m → m.stats.get? stat = none) ∧
          ∀ entry, vantage.module.stats.get? stat = some entry →
            Lookup.stat? vantage.stack stat = some entry := by
  intro vantage member name isNamed isFree
  have modules : loom.modules = ordered.reverse := by
    unfold Build.loom at reversed
    cases limit : step .settings settings.limit with
    | error fault =>
      rw [limit] at reversed
      cases reversed
    | ok value =>
      rw [limit] at reversed
      obtain rfl := Except.ok.inj reversed
      rfl
  rw [modules] at member
  have below (other : String) (m : Module) (listed : snapshots.merge.get? other = some m)
      (builds : BuildsOn snapshots.merge anchors name other) : m ∈ vantage.below :=
    mem_below ok member isNamed isFree listed builds
  have visible (m : Module) (seen : IsVisible snapshots.merge anchors vantage m) :
      m ∈ vantage.stack := by
    rcases seen with rfl | ⟨own, other, isOwn, listed, builds⟩
    · exact List.mem_cons_self
    · obtain rfl : own = name := Option.some.inj (isOwn.symm.trans isNamed)
      exact List.mem_cons_of_mem _ (below other m listed builds)
  refine ⟨below, fun kind list => ⟨?_, ?_⟩, fun feat => ⟨?_, ?_⟩, fun stat => ⟨?_, ?_⟩⟩
  · exact fun nothing m seen => Lookup.supplier?_eq_none_iff.1 nothing m (visible m seen)
  · exact fun candidates defined => Lookup.supplier?_of_defined defined
  · exact fun nothing m seen => Lookup.description?_eq_none_iff.1 nothing m (visible m seen)
  · exact fun description defined => Lookup.description?_of_defined defined
  · exact fun nothing m seen => Lookup.stat?_eq_none_iff.1 nothing m (visible m seen)
  · exact fun entry defined => Lookup.stat?_of_defined defined

/-- The list is two dependencies away from the module that looks for it, and the module in between
also depends on one that was not found. -/
theorem loom_sees_dependencies_chained :
    let needing (name : String) (needed : List String) : Module :=
      { name := some name, dependencies := needed.map fun other => { name := some other } }
    let lists : CandidateLists := .ofList [(.skill, .ofList [(Guid.nil, ["Stealth"])])]
    let base : Module := { needing "Base" [] with lists }
    let snapshots : Snapshots := .ofList
      [("Top", [needing "Top" ["Middle"]]), ("Middle", [needing "Middle" ["Base", "Gone"]]),
        ("Base", [base]), ("Shared", [needing "Shared" ["Top"]])]
    let middle : Module := needing "Middle" ["Base"]
    let ordered : List Module := [needing "Shared" ["Top"], base, middle, needing "Top" ["Middle"]]
    let loom : Loom := { modules := ordered.reverse, base := "", limit := 10 }
    let settings : Settings := { (default : Settings) with maxLeaves := .int 10 }
    let vantage : Vantage := ⟨needing "Top" ["Middle"], [middle, base, needing "Shared" ["Top"]]⟩
    loadOrder snapshots.merge ["Shared"] = .ok ordered ∧ Build.loom settings ordered = .ok loom ∧
      vantage ∈ Vantage.all loom.modules ∧ vantage.module.name = some "Top" ∧
      "Top" ∉ ["Shared"] ∧ snapshots.merge.get? "Base" = some base ∧
      BuildsOn snapshots.merge ["Shared"] "Top" "Base" ∧ base ∈ vantage.below ∧
      Lookup.supplier? .skill Guid.nil vantage.stack ≠ none := by
  intro needing lists base snapshots middle ordered loom settings vantage
  have ok : loadOrder snapshots.merge ["Shared"] = .ok ordered := by decide +kernel
  have reversed : Build.loom settings ordered = .ok loom := rfl
  have member : vantage ∈ Vantage.all loom.modules := by decide
  have isFree : "Top" ∉ ["Shared"] := by decide
  have listed : snapshots.merge.get? "Base" = some base := by decide +kernel
  have first : Needs snapshots.merge ["Shared"] "Top" "Middle" :=
    ⟨needing "Top" ["Middle"], by decide +kernel, by decide⟩
  have second : Needs snapshots.merge ["Shared"] "Middle" "Base" :=
    ⟨middle, by decide +kernel, by decide⟩
  have builds : BuildsOn snapshots.merge ["Shared"] "Top" "Base" :=
    Or.inr (.tail (.single first) second)
  obtain ⟨below, supplied, _⟩ :=
    loom_sees_dependencies snapshots ["Shared"] settings ok reversed vantage member "Top" rfl isFree
  refine ⟨ok, reversed, member, rfl, isFree, listed, builds, below "Base" base listed builds, ?_⟩
  intro nothing
  have visible : IsVisible snapshots.merge ["Shared"] vantage base :=
    Or.inr ⟨"Top", "Base", rfl, listed, builds⟩
  have missing := (supplied .skill Guid.nil).1 nothing base visible
  revert missing
  decide

end Build

end FeatLoom
