import FeatLoom.Proofs.Weaving.Growth
import FeatLoom.Proofs.Weaving.Links
import FeatLoom.Proofs.Weaving.Site
import FeatLoom.Weaving.Loom
import Mathlib.Data.List.Perm.Basic

/-!
# Anchored trees

A tree is anchored in a container when its root is found under that container, and the subtrees of
every branch are anchored in the spell of the branch. All that grows is anchored, also when growth
ends early. In an anchored tree the tiers list every spell but the root, each where it says that it
is found.
-/

namespace FeatLoom

namespace ModuleSpell

def link (spell : ModuleSpell) : Link :=
  ⟨spell.entry.valuesOf "SpellContainerID", spell.module, spell.entry.name⟩

structure IsUnder (container : String) (spell : ModuleSpell) : Prop where
  named : spell.entry.name ≠ ""
  containers : spell.entry.valuesOf "SpellContainerID" = [container]

theorem IsUnder.link_eq {container : String} {spell : ModuleSpell}
    (under : spell.IsUnder container) :
    spell.link = ⟨[container], spell.module, spell.entry.name⟩ := by
  rw [link, under.containers]

end ModuleSpell

namespace Woven

def links (tree : Woven) : List Link := tree.tier?.toList.flatMap fun tier => tier.2.links tier.1

/-- A tree that is found under a container, and each tree in it under the spell above it. -/
inductive Anchored : String → Woven → Prop
  | leaf {container : String} {spell : ModuleSpell} (under : spell.IsUnder container)
      (boost : Option StatEntry) : Anchored container (.leaf spell boost)
  | deadEnd {container : String} {spell : ModuleSpell} (under : spell.IsUnder container)
      (warning : Option String) : Anchored container (.deadEnd spell warning)
  | branch {container : String} {spell : ModuleSpell} {children : List Woven}
      (under : spell.IsUnder container)
      (anchored : ∀ child ∈ children, Anchored spell.entry.name child) :
      Anchored container (.branch spell children)

theorem Anchored.isUnder {container : String} {tree : Woven} (anchored : tree.Anchored container) :
    tree.spell.IsUnder container := by
  cases anchored with
  | leaf under => exact under
  | deadEnd under => exact under
  | branch under => exact under

theorem links_tierOf_of_named (parent : String) {spells : List ModuleSpell}
    (named : ∀ spell ∈ spells, spell.entry.name ≠ "") :
    (Tier.links parent (tierOf spells)).Perm
      (spells.map fun spell => ⟨[parent], spell.module, spell.entry.name⟩) := by
  have entries : ∀ entry ∈ spells.map (fun spell => (spell.module, some spell.entry.name)),
      entry.2 ≠ some "" := by
    intro entry member
    obtain ⟨spell, inSpells, rfl⟩ := List.mem_map.1 member
    exact fun empty => named spell inSpells (Option.some.inj empty)
  have listed := Tier.links_registerAll parent OrderedMap.empty _ entries
  rw [Tier.registerAll, List.foldl_map, List.flatMap_map, Tier.links_empty, List.nil_append]
    at listed
  rw [List.map_eq_flatMap]
  exact listed

theorem links_tierOf {parent : String} {trees : List Woven}
    (anchored : ∀ tree ∈ trees, tree.Anchored parent) :
    (Tier.links parent (tierOf (trees.map Woven.spell))).Perm
      (trees.map fun tree => tree.spell.link) := by
  have named : ∀ spell ∈ trees.map Woven.spell, spell.entry.name ≠ "" := by
    rw [List.forall_mem_map]
    exact fun tree inTrees => (anchored tree inTrees).isUnder.named
  have same : ∀ tree ∈ trees,
      (⟨[parent], tree.spell.module, tree.spell.entry.name⟩ : Link) = tree.spell.link :=
    fun tree inTrees => (anchored tree inTrees).isUnder.link_eq.symm
  rw [← List.map_congr_left same]
  simpa [Function.comp_def] using links_tierOf_of_named parent named

/-- Trees side by side: the links of their roots and those of all tiers in them are the links of
all their spells. -/
theorem links_nodes_perm {trees : List Woven}
    (each : ∀ tree ∈ trees, (tree.spell.link :: tree.nodes.flatMap links).Perm
      (tree.nodes.map fun node => node.spell.link)) :
    ((trees.map fun tree => tree.spell.link) ++ (trees.flatMap nodes).flatMap links).Perm
      ((trees.flatMap nodes).map fun node => node.spell.link) := by
  rw [List.flatMap_assoc, List.map_flatMap]
  exact (List.map_append_flatMap_perm ..).trans (List.Perm.flatMap_left _ each)

theorem Anchored.links_perm {container : String} {tree : Woven}
    (anchored : tree.Anchored container) :
    (tree.spell.link :: tree.nodes.flatMap links).Perm
      (tree.nodes.map fun node => node.spell.link) := by
  induction anchored with
  | leaf under boost => rfl
  | deadEnd under warning => rfl
  | @branch container spell children under anchored ih =>
    rw [nodes, nodesOf_eq_flatMap, List.flatMap_cons, List.map_cons]
    apply List.Perm.cons
    refine List.Perm.trans ?_ (links_nodes_perm ih)
    apply List.Perm.append_right
    have opened : links (Woven.branch spell children) =
        Tier.links spell.entry.name (tierOf (children.map Woven.spell)) := List.append_nil _
    rw [opened]
    exact links_tierOf anchored

end Woven

namespace Weaving

variable {site : Site}

namespace Site

theorem isUnder_of_values (named : site.container ≠ "") {spell : ModuleSpell}
    (name : spell.entry.name = site.spellName)
    (containers : spell.entry.valuesOf "SpellContainerID" = [site.container].filter (· ≠ "")) :
    spell.IsUnder site.container := by
  refine ⟨?_, ?_⟩
  · rw [name]
    exact site.spellName_ne_empty
  · rw [containers]
    simp [named]

end Site

/-- What grows at a site is anchored in its container. -/
theorem anchored_grow (feat : Feat) (limit : Int) (depth : Nat) (named : site.container ≠ "")
    (allowed : Nat) :
    (grow feat limit depth site allowed).1.Anchored site.container := by
  induction depth generalizing site allowed with
  | zero =>
    rw [grow, growLeaf]
    split
    · have ending := Site.isUnder_of_values named (site.name_endingSpell feat)
        (site.containers_endingSpell feat)
      exact .leaf ending _
    · have applying := Site.isUnder_of_values named (site.name_applyingSpell feat)
        (site.containers_applyingSpell feat)
      exact .leaf applying _
  | succ depth ih =>
    have opening := Site.isUnder_of_values named (site.name_openingSpell feat)
      (site.containers_openingSpell feat)
    cases chosen : site.choice with
    | error fault =>
      rw [grow, chosen]
      exact .branch opening (by simp)
    | ok choice =>
      cases choice with
      | missing kind list =>
        rw [grow, chosen]
        exact .deadEnd opening _
      | picks supplier kind options =>
        cases options with
        | nil =>
          rw [grow, chosen]
          exact .deadEnd opening _
        | cons first others =>
          rw [grow_of_picks chosen (List.cons_ne_nil first others)]
          refine .branch opening (forall_mem_growEach fun option _ left tree grown => ?_)
          obtain ⟨next, after, rfl⟩ := growPick_tree grown
          have container := Site.container_after after
          rw [Site.name_openingSpell, ← container]
          apply ih
          rw [container]
          exact site.spellName_ne_empty

end Weaving

end FeatLoom
