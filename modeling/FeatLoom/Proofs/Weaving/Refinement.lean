import FeatLoom.Proofs.Weaving.PickTree

/-!
# What weaving grows

A run that does not end early grows, for every feat and every module that defines it, the tree of
its picks as they are seen from that module, and nothing else. The spells and boosts of the fabric
are those of the nodes of these trees, in the order of their growth.
-/

namespace FeatLoom

namespace Feat

def choices (feat : Feat) : List AbilityChoice :=
  feat.selectors.filterMap fun
    | .ability choice => some choice
    | _ => none

theorem selectors_eq {feat : Feat} (supported : feat.isSupported) :
    feat.selectors = feat.choices.map Selector.ability := by
  have all := List.all_eq_true.1 supported
  rw [choices]
  generalize feat.selectors = selectors at all
  induction selectors with
  | nil => rfl
  | cons selector selectors ih =>
    rw [List.forall_mem_cons] at all
    cases selector with
    | ability choice => simpa using ih all.2
    | _ => cases all.1

def pickCount (feat : Feat) : Nat := (feat.choices.map AbilityChoice.count).sum

end Feat

theorem Root.nodesOf_flatMap (roots : List (Option Root)) :
    nodesOf (roots.flatMap Option.toList) = roots.flatMap fun root => nodesOf root.toList := by
  rw [nodesOf, List.filterMap_flatMap, List.flatMap_assoc]
  rfl

namespace Fabric

theorem foldl_addFeat (base : String) (fabric : Fabric) (feats : List (List Root)) :
    let grown := feats.foldl (addFeat base) fabric
    let nodes := feats.flatMap Root.nodesOf
    grown.spells = fabric.spells.appendAll
        (nodes.map fun node => (node.spell.module, node.spell.entry)) ∧
      grown.boosts = fabric.boosts.appendAll (nodes.filterMap Woven.boost?) := by
  induction feats generalizing fabric with
  | nil => exact ⟨rfl, rfl⟩
  | cons roots feats ih =>
    obtain ⟨spells, boosts⟩ := ih (fabric.addFeat base roots)
    refine ⟨?_, ?_⟩
    · rw [List.flatMap_cons, List.map_append, OrderedMap.appendAll_append]
      exact spells
    · rw [List.flatMap_cons, List.filterMap_append, OrderedMap.appendAll_append]
      exact boosts

end Fabric

namespace Loom

open Weaving

variable (loom : Loom)

def spot (vantage : Vantage) (feat : Feat) : Spot where
  stem := feat.name ++ "_" ++ vantage.module.normalizedName
  vantage := vantage
  container := loom.base
  left := Expansion.turns id feat.choices

def plots : List (Guid × Vantage) :=
  loom.featIds.flatMap fun feat => (Vantage.all loom.modules).map fun vantage => (feat, vantage)

/-- The feat that is woven in a module, if it is defined there and asks for abilities only. -/
def woven? (plot : Guid × Vantage) : Option Feat :=
  (plot.2.module.feat? plot.1).filter Feat.isSupported

/-- What has grown in a plot is a tree of picks where a feat is woven, and nothing elsewhere. -/
def IsGrown (plot : Guid × Vantage) (nodes : List Woven) : Prop :=
  match woven? plot with
  | none => nodes = []
  | some feat => IsPickTree feat (loom.spot plot.2 feat) nodes

variable {loom}

theorem awaits_rootSite {feat : Feat} (supported : feat.isSupported) (vantage : Vantage) :
    ∃ items, Expansion.Awaits id (loom.rootSite vantage feat).state [] items
      (Expansion.turns id feat.choices) := by
  rw [rootSite, Feat.selectors_eq supported]
  exact ⟨_, Expansion.awaits_ofSelectors feat.choices⟩

theorem growRoot_cases {id : Guid} {vantage : Vantage} {before after : Nat} {root : Option Root}
    (grown : loom.growRoot id vantage before = (root, .ok after)) :
    (woven? (id, vantage) = none ∧ Root.nodesOf root.toList = []) ∨
      ∃ feat tree, woven? (id, vantage) = some feat ∧ feat.isSupported ∧
        Root.nodesOf root.toList = tree.nodes ∧
        grow feat loom.limit (loom.rootSite vantage feat).state.picksLeft
          (loom.rootSite vantage feat) before = (tree, .ok after) := by
  unfold growRoot at grown
  unfold woven?
  cases found : vantage.module.feat? id with
  | none =>
    rw [found] at grown
    obtain ⟨rfl, _⟩ := Prod.mk.inj grown
    exact .inl ⟨rfl, rfl⟩
  | some feat =>
    simp only [found] at grown ⊢
    by_cases supported : feat.isSupported
    · rw [if_pos supported] at grown
      obtain ⟨rfl, ended⟩ := Prod.mk.inj grown
      rw [Option.filter_some, if_pos supported]
      refine .inr ⟨feat, _, rfl, supported, ?_, Prod.ext rfl ended⟩
      simp [Root.nodesOf, Root.tree?]
    · rw [if_neg supported] at grown
      obtain ⟨rfl, _⟩ := Prod.mk.inj grown
      rw [Option.filter_some, if_neg supported]
      exact .inl ⟨rfl, rfl⟩

theorem growRoot_ok {id : Guid} {vantage : Vantage} {before after : Nat} {root : Option Root}
    (grown : loom.growRoot id vantage before = (root, .ok after)) :
    loom.IsGrown (id, vantage) (Root.nodesOf root.toList) := by
  unfold IsGrown
  rcases growRoot_cases grown with ⟨bare, none⟩ | ⟨feat, tree, woven, supported, nodes, ended⟩
  · rw [bare]
    exact none
  · obtain ⟨items, awaits⟩ := loom.awaits_rootSite supported vantage
    rw [awaits.picksLeft_eq] at ended
    rw [woven, nodes]
    exact grow_isPickTree awaits ended

theorem growFeat_ok {id : Guid} {before after : Nat} {roots : Option (List Root)}
    (grown : loom.growFeat id before = (roots, .ok after)) : ∃ trees, roots = some trees ∧
      growEach (loom.growRoot id) (Vantage.all loom.modules) before = (trees, .ok after) := by
  obtain ⟨some, ended⟩ := Prod.mk.inj grown
  exact ⟨_, some.symm, Prod.ext rfl ended⟩

section Plots

variable {Grown : Guid × Vantage → List Woven → Prop}
  (each : ∀ {id vantage before after root}, loom.growRoot id vantage before = (root, .ok after) →
    Grown (id, vantage) (Root.nodesOf root.toList))

include each

theorem growFeat_plots {id : Guid} {before after : Nat} {roots : Option (List Root)}
    (grown : loom.growFeat id before = (roots, .ok after)) :
    ∃ nodes : List (List Woven), roots.toList.flatMap Root.nodesOf = nodes.flatten ∧
      List.Forall₂ (fun vantage nodes => Grown (id, vantage) nodes)
        (Vantage.all loom.modules) nodes := by
  obtain ⟨trees, rfl, all⟩ := growFeat_ok grown
  obtain ⟨roots, rfl, ended⟩ := growEach_ok all
  refine ⟨roots.map fun root => Root.nodesOf root.toList, ?_, ?_⟩
  · rw [Option.toList_some, List.flatMap_singleton, Root.nodesOf_flatMap, List.flatMap_def]
  · rw [List.forall₂_map_right_iff]
    exact ended.imp fun vantage root ⟨_, _, grown⟩ => each grown

theorem growAll_plots {before after : Nat} {feats : List (List Root)}
    (grown : loom.growAll before = (feats, .ok after)) :
    ∃ nodes : List (List Woven), feats.flatMap Root.nodesOf = nodes.flatten ∧
      List.Forall₂ Grown loom.plots nodes := by
  obtain ⟨roots, rfl, ended⟩ := growEach_ok grown
  unfold plots
  clear grown
  generalize loom.featIds = ids at ended
  induction ended with
  | nil => exact ⟨[], rfl, .nil⟩
  | cons first others ih =>
    obtain ⟨_, _, first⟩ := first
    obtain ⟨nodes, same, trees⟩ := growFeat_plots each first
    obtain ⟨more, sameMore, moreTrees⟩ := ih
    refine ⟨nodes ++ more, ?_, ?_⟩
    · rw [List.flatMap_cons, List.flatMap_append, same, sameMore, List.flatten_append]
    · rw [List.flatMap_cons]
      exact List.rel_append (List.forall₂_map_left_iff.2 trees) moreTrees

end Plots

theorem growAll_ok {before after : Nat} {feats : List (List Root)}
    (grown : loom.growAll before = (feats, .ok after)) :
    ∃ nodes : List (List Woven), feats.flatMap Root.nodesOf = nodes.flatten ∧
      List.Forall₂ loom.IsGrown loom.plots nodes :=
  growAll_plots growRoot_ok grown

theorem weave_ok {fabric : Fabric} (ended : (loom.weave fabric).fault = none) :
    ∃ feats left, loom.growAll (loom.allowance fabric) = (feats, .ok left) ∧
      (loom.weave fabric).fabric = feats.foldl (Fabric.addFeat loom.base) fabric := by
  cases grown : loom.growAll (loom.allowance fabric) with
  | mk feats outcome =>
    rw [weave, grown] at ended ⊢
    cases outcome with
    | error fault => cases ended
    | ok left => exact ⟨feats, left, rfl, rfl⟩

/-- A run that does not end early adds the spells and boosts of the trees of picks, one for every
feat that is woven in a module, and no others. -/
theorem weave_grows_pick_trees (loom : Loom) (fabric : Fabric)
    (ended : (loom.weave fabric).fault = none) :
    ∃ nodes : List (List Woven), List.Forall₂ loom.IsGrown loom.plots nodes ∧
      (loom.weave fabric).fabric.spells = fabric.spells.appendAll
        (nodes.flatten.map fun node => (node.spell.module, node.spell.entry)) ∧
      (loom.weave fabric).fabric.boosts = fabric.boosts.appendAll
        (nodes.flatten.filterMap Woven.boost?) := by
  cases grown : loom.growAll (loom.allowance fabric) with
  | mk feats outcome =>
    cases outcome with
    | error fault =>
      rw [weave, grown] at ended
      cases ended
    | ok left =>
      obtain ⟨nodes, same, trees⟩ := growAll_ok grown
      refine ⟨nodes, trees, ?_⟩
      rw [weave, grown, ← same]
      exact Fabric.foldl_addFeat loom.base fabric feats

/-- A feat of one module whose two picks come from a list of the module below it. -/
theorem weave_grows_pick_trees_below :
    let list : OrderedMap Guid (List String) := .ofList [(Guid.nil, ["Strength", "Wisdom"])]
    let feat : Feat :=
      { id := Guid.nil, name := "Gift", selectors := [.ability ⟨Guid.nil, 2, 1, "Score"⟩] }
    let upper : Module := { name := some "Upper", feats := [feat] }
    let lower : Module := { name := some "Lower", lists := .ofList [(.ability, list)] }
    let loom : Loom := { modules := [upper, lower] }
    (loom.weave {}).fault = none ∧ (loom.weave {}).fabric.spellCount = 5 ∧
      ∃ nodes : List (List Woven), List.Forall₂ loom.IsGrown loom.plots nodes ∧
        (loom.weave {}).fabric.spells = OrderedMap.empty.appendAll
          (nodes.flatten.map fun node => (node.spell.module, node.spell.entry)) ∧
        (loom.weave {}).fabric.boosts = OrderedMap.empty.appendAll
          (nodes.flatten.filterMap Woven.boost?) := by
  intro list feat upper lower loom
  have ended : (loom.weave {}).fault = none := by decide
  refine ⟨ended, by decide, ?_⟩
  exact weave_grows_pick_trees loom {} ended

end Loom

end FeatLoom
