import FeatLoom.Lookup
import FeatLoom.Proofs.Expansion.PickSequence
import FeatLoom.Proofs.Expansion.Turn
import FeatLoom.Weaving.Growth

/-!
# Spots

A spot is where picks start: a module, what the names there end in, the spell that everything is
found under, the picks made before and the turns that are left. Each turn has the nearest list of
candidates, looked for from the module that supplied the turn before. A path of picks then says
what the spell after these picks is called, which module it is for and what it is found under.
-/

namespace FeatLoom.Weaving

structure Stage extends Slot where
  supplier : Vantage

namespace Stage

/-- The stages of turns. Where a list is missing no stage follows. -/
def along : Vantage → List AbilityChoice → List Stage
  | _, [] => []
  | vantage, choice :: rest =>
    match Lookup.supplier? .ability choice.list vantage.stack with
    | none => []
    | some (supplier, candidates) => ⟨⟨candidates, choice.max⟩, supplier⟩ :: along supplier rest

theorem length_along_le (vantage : Vantage) (turns : List AbilityChoice) :
    (along vantage turns).length ≤ turns.length := by
  induction turns generalizing vantage with
  | nil => exact Nat.le_refl _
  | cons choice rest ih =>
    rw [along]
    cases Lookup.supplier? .ability choice.list vantage.stack with
    | none => exact Nat.zero_le _
    | some supply => exact Nat.succ_le_succ (ih supply.1)

theorem along_replicate {vantage : Vantage} {choice : AbilityChoice} {candidates : List String}
    (own : Lookup.supplier? .ability choice.list vantage.stack = some (vantage, candidates))
    (turns : Nat) : along vantage (List.replicate turns choice) =
      List.replicate turns ⟨⟨candidates, choice.max⟩, vantage⟩ := by
  induction turns with
  | zero => rfl
  | succ turns ih =>
    rw [List.replicate_succ, along, own, List.replicate_succ]
    exact congrArg (List.cons _) ih

def suffix (stage : Stage) (position : Nat) : String :=
  "_" ++ stage.candidates.getD position "" ++ "_" ++ stage.supplier.module.normalizedName

end Stage

/-- Where picks start. -/
structure Spot where
  stem : String
  vantage : Vantage
  container : String
  /-- The names picked before, which count against the caps. -/
  made : List String := []
  left : List AbilityChoice

namespace Spot

variable (spot : Spot) (path : List Nat)

def stages : List Stage := Stage.along spot.vantage spot.left

def slots : List Slot := spot.stages.map Stage.toSlot

theorem length_slots_le : spot.slots.length ≤ spot.left.length := by
  rw [slots, List.length_map]
  exact Stage.length_along_le _ _

def picksAt : List String := spot.made ++ Slot.names spot.slots path

def stemAt : String := (List.zipWith Stage.suffix spot.stages path).foldl (· ++ ·) spot.stem

def vantageAt : Vantage :=
  ((spot.stages.take path.length).getLast?.map Stage.supplier).getD spot.vantage

def containerAt : String :=
  if path = [] then spot.container else spellPrefix ++ spot.stemAt path.dropLast

def spellNameAt : String := spellPrefix ++ spot.stemAt path

def boostNameAt : String := boostPrefix ++ spot.stemAt path

def boostsAt : List String :=
  (spot.picksAt path).eraseDups.map fun ability =>
    "Ability(" ++ ability ++ "," ++ toString ((spot.picksAt path).count ability : Int) ++ ")"

/-- The conditions of the feat, those that keep picked abilities below the cap, and those that
keep the feat from being taken again. -/
def conditionsAt (feat : Feat) : List String :=
  feat.requirements.toList ++
    ((spot.picksAt path).eraseDups.map fun ability =>
      "not AbilityGreaterThan('" ++ ability ++ "'," ++
        toString (Expansion.scoreCap - (spot.picksAt path).count ability) ++ ")") ++
    Site.passiveGuards feat

structure Leads (spot : Spot) (stage : Stage) (position : Nat) (name : String) (next : Spot) :
    Prop where
  stages_eq : spot.stages = stage :: next.stages
  there : stage.candidates[position]? = some name
  stem_eq : next.stem = spot.stem ++ stage.suffix position
  vantage_eq : next.vantage = stage.supplier
  container_eq : next.container = spot.spellNameAt []
  made_eq : next.made = spot.made ++ [name]
  left_eq : spot.left.length = next.left.length + 1

namespace Leads

variable {spot next : Spot} {stage : Stage} {position : Nat} {name : String}
  (leads : spot.Leads stage position name next) (path : List Nat)

include leads

theorem picksAt_cons : spot.picksAt (position :: path) = next.picksAt path := by
  rw [picksAt, slots, leads.stages_eq, List.map_cons, Slot.names_cons leads.there, picksAt,
    leads.made_eq, List.append_assoc, slots]
  rfl

theorem stemAt_cons : spot.stemAt (position :: path) = next.stemAt path := by
  rw [stemAt, leads.stages_eq, List.zipWith_cons_cons, List.foldl_cons, ← leads.stem_eq, stemAt]

theorem spellNameAt_cons : spot.spellNameAt (position :: path) = next.spellNameAt path := by
  rw [spellNameAt, leads.stemAt_cons, spellNameAt]

theorem boostNameAt_cons : spot.boostNameAt (position :: path) = next.boostNameAt path := by
  rw [boostNameAt, leads.stemAt_cons, boostNameAt]

theorem vantageAt_cons : spot.vantageAt (position :: path) = next.vantageAt path := by
  rw [vantageAt, leads.stages_eq, List.length_cons, List.take_succ_cons, List.getLast?_cons,
    vantageAt, leads.vantage_eq]
  cases (next.stages.take path.length).getLast? with
  | none => rfl
  | some last => rfl

theorem containerAt_cons : spot.containerAt (position :: path) = next.containerAt path := by
  cases path with
  | nil => exact leads.container_eq.symm
  | cons second path =>
    rw [containerAt, if_neg (List.cons_ne_nil _ _), List.dropLast_cons_cons, leads.stemAt_cons,
      containerAt, if_neg (List.cons_ne_nil _ _)]

theorem boostsAt_cons : spot.boostsAt (position :: path) = next.boostsAt path := by
  rw [boostsAt, leads.picksAt_cons, boostsAt]

theorem conditionsAt_cons (feat : Feat) :
    spot.conditionsAt (position :: path) feat = next.conditionsAt path feat := by
  rw [conditionsAt, leads.picksAt_cons, conditionsAt]

end Leads

end Spot

/-- The node that a path of picks for a feat leads to from a spot. It is a leaf exactly when the
path takes all turns; only then there is a boost, and the spell applies it. -/
structure IsNodeAt (feat : Feat) (spot : Spot) (path : List Nat) (node : Woven) : Prop where
  name : node.spell.entry.name = spot.spellNameAt path
  module : node.spell.module = (spot.vantageAt path).module.normalizedName
  containers : node.spell.entry.valuesOf "SpellContainerID" =
    [spot.containerAt path].filter (· ≠ "")
  conditions : node.spell.entry.valuesOf "RequirementConditions" =
    (spot.conditionsAt path feat).filter (· ≠ "")
  isLeaf_iff : node.isLeaf ↔ path.length = spot.left.length
  flags : node.spell.entry.valuesOf "SpellFlags" =
    [if node.isLeaf then "IgnoreSilence" else "IsLinkedSpellContainer"]
  properties : node.spell.entry.valuesOf "SpellProperties" =
    if node.isLeaf then ["ApplyStatus(" ++ spot.boostNameAt path ++ ",-1,-1)"] else []
  isSome_boost : node.boost?.isSome ↔ node.isLeaf
  boost : ∀ granted ∈ node.boost?, granted.1 = node.spell.module ∧
    granted.2.name = spot.boostNameAt path ∧
    granted.2.valuesOf "Passives" = feat.passives.filter (· ≠ "") ∧
    granted.2.valuesOf "Boosts" = "ActionResource(UsedFeatPoints,1,0)" :: spot.boostsAt path

/-- Nodes are those of the legal paths of picks from a spot, in lexicographic order, so that a path
comes before those that go on from it. -/
def IsPickTree (feat : Feat) (spot : Spot) (nodes : List Woven) : Prop :=
  ∃ paths : List (List Nat), paths.Pairwise (· < ·) ∧
    (∀ path, path ∈ paths ↔ Slot.IsLegal spot.made spot.slots path) ∧
    List.Forall₂ (IsNodeAt feat spot) paths nodes

theorem IsNodeAt.cons {feat : Feat} {spot next : Spot} {stage : Stage} {position : Nat}
    {name : String} {path : List Nat} {node : Woven}
    (leads : spot.Leads stage position name next) (isNode : IsNodeAt feat next path node) :
    IsNodeAt feat spot (position :: path) node where
  name := by rw [leads.spellNameAt_cons, isNode.name]
  module := by rw [leads.vantageAt_cons, isNode.module]
  containers := by rw [leads.containerAt_cons, isNode.containers]
  conditions := by rw [leads.conditionsAt_cons, isNode.conditions]
  isLeaf_iff := by
    rw [isNode.isLeaf_iff, leads.left_eq, List.length_cons]
    omega
  flags := isNode.flags
  properties := by rw [leads.boostNameAt_cons, isNode.properties]
  isSome_boost := isNode.isSome_boost
  boost := by
    intro granted inNode
    rw [leads.boostNameAt_cons, leads.boostsAt_cons]
    exact isNode.boost granted inNode

end FeatLoom.Weaving
