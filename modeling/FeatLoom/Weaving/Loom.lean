import FeatLoom.Nesting
import FeatLoom.OrderedMap.Lists
import FeatLoom.Weaving.Growth

/-!
# Weaving all feats

A loom holds the modules, overriding ones first, the spell that all feats are found under, and the
limit. For every feat, by identifier, the base spell gets a tier in which each module that defines
the feat has its root spell; a module whose feat asks for more than abilities is registered without
a spell and so masks the modules below it. A fabric is what looms produce.
-/

namespace FeatLoom

inductive Root where
  /-- The module defines the feat, but nothing is generated from it. -/
  | masked (module : String)
  | woven (tree : Woven)

namespace Root

instance : Inhabited Root := ⟨masked ""⟩

def tree? : Root → Option Woven
  | masked _ => none
  | woven tree => some tree

def register (tier : Tier) : Root → Tier
  | masked module => tier.register module none
  | woven tree => tier.register tree.spell.module (some tree.spell.entry.name)

def tierOf (roots : List Root) : Tier := roots.foldl register OrderedMap.empty

def nodesOf (roots : List Root) : List Woven := (roots.filterMap tree?).flatMap Woven.nodes

end Root

structure Fabric where
  wiring : Wiring := {}
  boosts : OrderedMap String (List StatEntry) := OrderedMap.empty
  spells : OrderedMap String (List StatEntry) := OrderedMap.empty
  leaves : Nat := 0
  deadEnds : Nat := 0

namespace Fabric

instance : Inhabited Fabric := ⟨{}⟩

def terminals (fabric : Fabric) : Nat := fabric.leaves + fabric.deadEnds

def spellCount (fabric : Fabric) : Nat := fabric.spells.itemCount

def boostCount (fabric : Fabric) : Nat := fabric.boosts.itemCount

def prune (fabric : Fabric) : Fabric := { fabric with wiring := fabric.wiring.prune }

def addNodes (fabric : Fabric) (nodes : List Woven) : Fabric where
  wiring := (nodes.filterMap Woven.tier?).foldl
    (fun wiring tier => wiring.addTier tier.1 tier.2) fabric.wiring
  boosts := fabric.boosts.appendAll (nodes.filterMap Woven.boost?)
  spells := fabric.spells.appendAll
    (nodes.map fun node => (node.spell.module, node.spell.entry))
  leaves := fabric.leaves + nodes.countP Woven.isLeaf
  deadEnds := fabric.deadEnds + nodes.countP Woven.isDeadEnd

def addFeat (base : String) (fabric : Fabric) (roots : List Root) : Fabric :=
  { fabric with wiring := fabric.wiring.addTier base (Root.tierOf roots) }.addNodes
    (Root.nodesOf roots)

end Fabric

structure Loom where
  /-- The modules, overriding ones before those that they override. -/
  modules : List Module
  base : String := "E6_Shout_EpicFeats"
  limit : Int := 100000
  /-- The number of picks that may follow upon one another. -/
  depth : Nat := Nesting.usual.picks

namespace Loom

open Weaving

def featIds (loom : Loom) : List Guid :=
  (loom.modules.flatMap fun m => m.feats.map Feat.id).eraseDups

def rootSite (loom : Loom) (vantage : Vantage) (feat : Feat) : Site where
  stem := feat.name ++ "_" ++ vantage.module.normalizedName
  vantage := vantage
  description := Lookup.describeFeat vantage.stack feat
  container := loom.base
  state := Expansion.ofSelectors feat.selectors
  room := loom.depth

def growRoot (loom : Loom) (id : Guid) (vantage : Vantage) (allowed : Nat) :
    Growth (Option Root) :=
  match vantage.module.feat? id with
  | none => (none, .ok allowed)
  | some feat =>
    if feat.isSupported then
      let site := loom.rootSite vantage feat
      let (tree, outcome) := grow feat loom.limit site.state.picksLeft site allowed
      (some (.woven tree), outcome)
    else (some (.masked vantage.module.normalizedName), .ok allowed)

def growFeat (loom : Loom) (id : Guid) (allowed : Nat) : Growth (Option (List Root)) :=
  let (roots, outcome) := growEach (loom.growRoot id) (Vantage.all loom.modules) allowed
  (some roots, outcome)

def growAll (loom : Loom) (allowed : Nat) : Growth (List (List Root)) :=
  growEach loom.growFeat loom.featIds allowed

/-- How many more leaves and dead ends a fabric may get. -/
def allowance (loom : Loom) (fabric : Fabric) : Nat :=
  (loom.limit - (fabric.terminals : Int)).toNat

/-- A run: the fabric it leaves, the warnings it gives, and the error that ended it early. -/
structure Run where
  fabric : Fabric
  warnings : List String
  fault : Option WeaveError

def weave (loom : Loom) (fabric : Fabric) : Run :=
  let (feats, outcome) := loom.growAll (loom.allowance fabric)
  { fabric := feats.foldl (Fabric.addFeat loom.base) fabric
    warnings := feats.flatMap fun roots => (Root.nodesOf roots).filterMap Woven.warning?
    fault :=
      match outcome with
      | .ok _ => none
      | .error fault => some fault }

end Loom

end FeatLoom
