import FeatLoom.Proofs.Weaving.Anchored

/-!
# Agreement of wiring and entries

Weaving adds spells and tiers in different places, and pruning takes tiers out again. Whatever the
order of these steps, and also when weaving ends early, the wiring lists every spell exactly as
often as there is an entry that says so, under the container that the entry names.
-/

namespace FeatLoom

namespace Root

def registration : Root → String × Option String
  | masked module => (module, none)
  | woven tree => (tree.spell.module, some tree.spell.entry.name)

theorem tierOf_eq_registerAll (roots : List Root) :
    tierOf roots = Tier.registerAll OrderedMap.empty (roots.map registration) := by
  rw [Tier.registerAll, List.foldl_map, tierOf]
  congr 1
  funext tier root
  cases root with
  | masked module => rfl
  | woven tree => rfl

theorem links_tierOf {parent : String} {roots : List Root}
    (anchored : ∀ tree ∈ roots.filterMap tree?, tree.Anchored parent) :
    (Tier.links parent (tierOf roots)).Perm
      ((roots.filterMap tree?).map fun tree => tree.spell.link) := by
  have under (tree : Woven) (member : .woven tree ∈ roots) : tree.spell.IsUnder parent :=
    (anchored tree (List.mem_filterMap.2 ⟨.woven tree, member, rfl⟩)).isUnder
  have named : ∀ entry ∈ roots.map registration, entry.2 ≠ some "" := by
    intro entry member
    obtain ⟨root, inRoots, rfl⟩ := List.mem_map.1 member
    cases root with
    | masked module => exact (Option.some_ne_none "").symm
    | woven tree => exact fun empty => (under tree inRoots).named (Option.some.inj empty)
  have listed := Tier.links_registerAll parent OrderedMap.empty _ named
  rw [← tierOf_eq_registerAll, List.flatMap_map, Tier.links_empty, List.nil_append] at listed
  rw [List.map_filterMap, List.filterMap_eq_flatMap_toList]
  refine listed.trans (List.Perm.flatMap_left _ fun root member => ?_)
  cases root with
  | masked module => rfl
  | woven tree =>
    rw [tree?, Option.map_some, (under tree member).link_eq]
    rfl

end Root

namespace Fabric

def spellLinks (fabric : Fabric) : List Link :=
  fabric.spells.gather fun module entry => [ModuleSpell.link ⟨module, entry⟩]

/-- The wiring has the links that the entries of all spells give, each as often as they do. -/
structure Agrees (fabric : Fabric) : Prop where
  numbered : fabric.wiring.IsNumbered
  links_perm : fabric.wiring.links.Perm fabric.spellLinks

theorem agrees_empty : Agrees {} := ⟨Wiring.isNumbered_empty, .refl _⟩

theorem Agrees.prune {fabric : Fabric} (agrees : fabric.Agrees) : fabric.prune.Agrees := by
  refine ⟨agrees.numbered.prune, ?_⟩
  have kept : fabric.prune.wiring.links = fabric.wiring.links := Wiring.links_prune fabric.wiring
  rw [kept]
  exact agrees.links_perm

theorem Agrees.addFeat {fabric : Fabric} (agrees : fabric.Agrees) {base : String}
    {roots : List Root} (anchored : ∀ tree ∈ roots.filterMap Root.tree?, tree.Anchored base) :
    (fabric.addFeat base roots).Agrees := by
  -- The tier of the feat lists the roots; the tiers of the nodes list all that is below them.
  have based := (Wiring.links_addTier agrees.numbered base (Root.tierOf roots)).trans
    ((Root.links_tierOf anchored).append_left _)
  obtain ⟨numbered, wired⟩ :=
    Wiring.links_addTiers (agrees.numbered.addTier base (Root.tierOf roots))
      ((Root.nodesOf roots).filterMap Woven.tier?)
  have opened : ((Root.nodesOf roots).filterMap Woven.tier?).flatMap
      (fun tier => tier.2.links tier.1) = (Root.nodesOf roots).flatMap Woven.links := by
    rw [List.filterMap_eq_flatMap_toList, List.flatMap_assoc]
    rfl
  have nodes : (((roots.filterMap Root.tree?).map fun tree => tree.spell.link) ++
        (Root.nodesOf roots).flatMap Woven.links).Perm
      ((Root.nodesOf roots).map fun node => node.spell.link) :=
    Woven.links_nodes_perm fun tree member => (anchored tree member).links_perm
  have entries := fabric.spells.gather_appendAll_perm
    (fun module entry => [ModuleSpell.link ⟨module, entry⟩])
    ((Root.nodesOf roots).map fun node => (node.spell.module, node.spell.entry))
  rw [List.flatMap_map, ← List.map_eq_flatMap] at entries
  rw [opened] at wired
  refine ⟨numbered, ?_⟩
  calc
    List.Perm (fabric.addFeat base roots).wiring.links
        (fabric.wiring.links ++ ((roots.filterMap Root.tree?).map fun tree => tree.spell.link) ++
          (Root.nodesOf roots).flatMap Woven.links) := wired.trans (based.append_right _)
    List.Perm _ (fabric.spellLinks ++ (Root.nodesOf roots).map fun node => node.spell.link) := by
      rw [List.append_assoc]
      exact agrees.links_perm.append nodes
    List.Perm _ (fabric.addFeat base roots).spellLinks := entries.symm

end Fabric

namespace Loom

open Weaving

variable {loom : Loom}

theorem anchored_growRoot (named : loom.base ≠ "") (id : Guid) (vantage : Vantage)
    (allowed : Nat) : ∀ root ∈ (loom.growRoot id vantage allowed).1, ∀ tree ∈ root.tree?,
      tree.Anchored loom.base := by
  intro root grown tree inRoot
  unfold growRoot at grown
  split at grown
  · cases grown
  · next feat defined =>
    split at grown
    · obtain rfl := Option.some.inj grown
      obtain rfl := Option.some.inj inRoot
      have based : (loom.rootSite vantage feat).container ≠ "" := named
      exact anchored_grow feat loom.limit _ based allowed
    · obtain rfl := Option.some.inj grown
      cases inRoot

/-- Feats grow roots that are anchored in the base spell. -/
theorem anchored_growAll (named : loom.base ≠ "") (allowed : Nat) :
    ∀ roots ∈ (loom.growAll allowed).1, ∀ tree ∈ roots.filterMap Root.tree?,
      tree.Anchored loom.base := by
  apply forall_mem_growEach
  intro id _ left roots grown tree member
  obtain rfl := Option.some.inj grown
  obtain ⟨root, inRoots, inRoot⟩ := List.mem_filterMap.1 member
  have all : ∀ root ∈ (growEach (loom.growRoot id) (Vantage.all loom.modules) left).1,
      ∀ tree ∈ root.tree?, tree.Anchored loom.base :=
    forall_mem_growEach fun vantage _ allowed => anchored_growRoot named id vantage allowed
  exact all root inRoots tree inRoot

theorem agrees_weave (named : loom.base ≠ "") {fabric : Fabric} (agrees : fabric.Agrees) :
    (loom.weave fabric).fabric.Agrees := by
  have anchored := anchored_growAll named (loom.allowance fabric)
  have grown : (loom.weave fabric).fabric =
      (loom.growAll (loom.allowance fabric)).1.foldl (Fabric.addFeat loom.base) fabric := rfl
  rw [grown]
  generalize (loom.growAll (loom.allowance fabric)).1 = feats at anchored
  induction feats generalizing fabric with
  | nil => exact agrees
  | cons roots feats ih =>
    rw [List.forall_mem_cons] at anchored
    exact ih (agrees.addFeat anchored.1) rfl anchored.2

inductive Step where
  | weave
  | prune
  deriving DecidableEq

def perform (loom : Loom) (fabric : Fabric) : Step → Fabric
  | .weave => (loom.weave fabric).fabric
  | .prune => fabric.prune

theorem agrees_perform (named : loom.base ≠ "") {fabric : Fabric} (agrees : fabric.Agrees)
    (step : Step) : (loom.perform fabric step).Agrees := by
  cases step with
  | weave => exact agrees_weave named agrees
  | prune => exact agrees.prune

theorem agrees_run (named : loom.base ≠ "") {fabric : Fabric} (agrees : fabric.Agrees)
    (steps : List Step) : (steps.foldl loom.perform fabric).Agrees := by
  induction steps generalizing fabric with
  | nil => exact agrees
  | cons step steps ih => exact ih (agrees_perform named agrees step)

/-- After any sequence of weaving and pruning, the links of the wiring are those that the entries
of the spells give, each as often. -/
theorem links_perm_spellLinks (loom : Loom) (named : loom.base ≠ "") (steps : List Step) :
    (steps.foldl loom.perform {}).wiring.links.Perm (steps.foldl loom.perform {}).spellLinks :=
  (agrees_run named Fabric.agrees_empty steps).links_perm

/-- With one leaf allowed, both weavings end at a leaf beyond it. -/
theorem links_perm_spellLinks_limited :
    let list : OrderedMap Guid (List String) := .ofList [(Guid.nil, ["Strength", "Wisdom"])]
    let feat : Feat :=
      { id := Guid.nil, name := "Gift", selectors := [.ability ⟨Guid.nil, 1, 1, "Score"⟩] }
    let main : Module :=
      { name := some "Main", feats := [feat], lists := .ofList [(.ability, list)] }
    let loom : Loom := { modules := [main], limit := 1 }
    let fabric := [Step.weave, .prune, .weave].foldl loom.perform {}
    loom.base ≠ "" ∧ (loom.weave {}).fault = some (.limitExceeded 1 "Gift") ∧
      fabric.spellLinks.length = 5 ∧ fabric.wiring.links.Perm fabric.spellLinks := by
  intro list feat main loom fabric
  have named : loom.base ≠ "" := by decide
  refine ⟨named, by decide, by decide, ?_⟩
  exact links_perm_spellLinks loom named [Step.weave, .prune, .weave]

end Loom

end FeatLoom
