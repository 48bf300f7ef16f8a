import FeatLoom.Proofs.Text.Numbers
import FeatLoom.Proofs.Weaving.Refinement

/-!
# Conditions along a path

The conditions of a spell bound the scores of the abilities that have been picked on its way. Every
further pick lowers a bound or adds one, so whoever meets the conditions of a spell meets those of
all spells above it, and what the boost of a leaf adds to a score stays below the cap.
-/

namespace FeatLoom

/-! ## Characters -/

namespace Weaving

def scoreCondition (ability : String) (most : Int) : String :=
  "not AbilityGreaterThan('" ++ ability ++ "'," ++ toString most ++ ")"

def abilityBoost (ability : String) (times : Int) : String :=
  "Ability(" ++ ability ++ "," ++ toString times ++ ")"

theorem scoreCondition_injective {ability other : String} {most bound : Int}
    (same : scoreCondition ability most = scoreCondition other bound) :
    ability = other ∧ most = bound :=
  Text.numbered_injective "'," "'".toList (by decide) same

theorem scoreCondition_ne_empty (ability : String) (most : Int) :
    scoreCondition ability most ≠ "" := by
  unfold scoreCondition
  intro empty
  have bracket := (String.append_eq_empty_iff.1 empty).2
  exact absurd bracket (by decide)

theorem abilityBoost_injective {ability other : String} {times most : Int}
    (same : abilityBoost ability times = abilityBoost other most) :
    ability = other ∧ times = most :=
  Text.numbered_injective "," [] (by decide) same

structure Character where
  score : String → Int
  fulfils : String → Prop

namespace Character

variable (who : Character)

/-- A score condition bounds a score. Of another condition nothing is known but whether it is
true. -/
def Meets (condition : String) : Prop :=
  (∀ ability most, condition = scoreCondition ability most → who.score ability ≤ most) ∧
    ((∀ ability most, condition ≠ scoreCondition ability most) → who.fulfils condition)

def MeetsAll (spell : StatEntry) : Prop :=
  ∀ condition ∈ spell.valuesOf "RequirementConditions", who.Meets condition

theorem meets_scoreCondition {ability : String} {most : Int} :
    who.Meets (scoreCondition ability most) ↔ who.score ability ≤ most := by
  constructor
  · intro meets
    exact meets.1 ability most rfl
  · intro bounded
    refine ⟨fun other bound same => ?_, fun no => absurd rfl (no ability most)⟩
    obtain ⟨rfl, rfl⟩ := scoreCondition_injective same
    exact bounded

end Character

/-! ## Along a path -/

theorem Slot.names_prefix {slots : List Slot} {above below : List Nat} (along : above <+: below) :
    Slot.names slots above <+: Slot.names slots below := by
  induction slots generalizing above below with
  | nil => simp [Slot.names]
  | cons slot slots ih =>
    cases above with
    | nil => simp [Slot.names]
    | cons position above =>
      obtain ⟨rest, rfl⟩ := along
      rw [List.cons_append, Slot.names, Slot.names, List.zipWith_cons_cons, List.zipWith_cons_cons,
        List.cons_prefix_cons]
      exact ⟨rfl, ih (List.prefix_append above rest)⟩

namespace Spot

variable (spot : Spot) (path : List Nat) (feat : Feat)

theorem picksAt_prefix {above below : List Nat} (along : above <+: below) :
    spot.picksAt above <+: spot.picksAt below :=
  (List.prefix_append_right_inj spot.made).2 (Slot.names_prefix along)

def scoreConditionsAt : List String :=
  (spot.picksAt path).eraseDups.map fun ability =>
    scoreCondition ability (Expansion.scoreCap - (spot.picksAt path).count ability)

/-- No condition is empty except a requirement that says nothing. -/
theorem conditionsAt_filter : (spot.conditionsAt path feat).filter (· ≠ "") =
    (feat.requirements.filter (· ≠ "")).toList ++ spot.scoreConditionsAt path ++
      Site.passiveGuards feat := by
  have scores : (spot.scoreConditionsAt path).filter (· ≠ "") = spot.scoreConditionsAt path := by
    refine List.filter_eq_self.2 fun condition member => decide_eq_true ?_
    obtain ⟨ability, _, rfl⟩ := List.mem_map.1 member
    exact scoreCondition_ne_empty _ _
  have guards : (Site.passiveGuards feat).filter (· ≠ "") = Site.passiveGuards feat := by
    unfold Site.passiveGuards
    split <;> simp
  have requirement : feat.requirements.toList.filter (· ≠ "") =
      (feat.requirements.filter (· ≠ "")).toList := by
    cases feat.requirements with
    | none => rfl
    | some text => by_cases empty : text = "" <;> simp [Option.filter, empty]
  calc (spot.conditionsAt path feat).filter (· ≠ "")
      = (feat.requirements.toList ++ spot.scoreConditionsAt path ++
          Site.passiveGuards feat).filter (· ≠ "") := rfl
    _ = _ := by rw [List.filter_append, List.filter_append, scores, guards, requirement]

end Spot

namespace IsNodeAt

variable {feat : Feat} {spot : Spot} {above below : List Nat} {container node : Woven}

theorem meetsAll_above (isContainer : IsNodeAt feat spot above container)
    (isNode : IsNodeAt feat spot below node) (along : above <+: below) (who : Character)
    (meets : who.MeetsAll node.spell.entry) : who.MeetsAll container.spell.entry := by
  unfold Character.MeetsAll at meets ⊢
  rw [isNode.conditions, Spot.conditionsAt_filter] at meets
  rw [isContainer.conditions, Spot.conditionsAt_filter]
  intro condition member
  simp only [List.mem_append] at member meets
  rcases member with (requirement | score) | guard
  · exact meets condition (.inl (.inl requirement))
  · obtain ⟨ability, picked, rfl⟩ := List.mem_map.1 score
    have earlier := spot.picksAt_prefix along
    have again : ability ∈ (spot.picksAt below).eraseDups := by
      rw [List.mem_eraseDups] at picked ⊢
      exact earlier.subset picked
    have bounded := who.meets_scoreCondition.1
      (meets _ (.inl (.inr (List.mem_map_of_mem again))))
    have more : (spot.picksAt above).count ability ≤ (spot.picksAt below).count ability :=
      earlier.count_le ability
    rw [who.meets_scoreCondition]
    omega
  · exact meets condition (.inr guard)

/-- Whoever can use a spell is not raised above the cap by its boost. -/
theorem score_add_le (isNode : IsNodeAt feat spot below node) {boost : String × StatEntry}
    (granted : boost ∈ node.boost?) {ability : String} {times : Int}
    (raises : abilityBoost ability times ∈ boost.2.valuesOf "Boosts") (who : Character)
    (meets : who.MeetsAll node.spell.entry) :
    who.score ability + times ≤ Expansion.scoreCap := by
  rw [(isNode.boost boost granted).2.2.2, List.mem_cons] at raises
  rcases raises with action | raises
  · have second := congrArg (fun text => text.toList[1]?) action
    simp [abilityBoost] at second
  · obtain ⟨raised, picked, same⟩ := List.mem_map.1 raises
    obtain ⟨rfl, rfl⟩ := abilityBoost_injective same
    unfold Character.MeetsAll at meets
    rw [isNode.conditions, Spot.conditionsAt_filter] at meets
    have bounded := who.meets_scoreCondition.1
      (meets _ (List.mem_append_left _ (List.mem_append_right _ (List.mem_map_of_mem picked))))
    omega

end IsNodeAt

/-- What the conditions of the nodes of a tree of picks are and what they imply. -/
structure IsGuarded (feat : Feat) (spot : Spot) (paths : List (List Nat)) (nodes : List Woven) :
    Prop where
  conditions : ∀ place ∈ paths.zip nodes,
    place.2.spell.entry.valuesOf "RequirementConditions" =
      (feat.requirements.filter (· ≠ "")).toList ++ spot.scoreConditionsAt place.1 ++
        Site.passiveGuards feat
  shown : ∀ above ∈ paths.zip nodes, ∀ below ∈ paths.zip nodes, above.1 <+: below.1 →
    ∀ who : Character, who.MeetsAll below.2.spell.entry → who.MeetsAll above.2.spell.entry
  capped : ∀ place ∈ paths.zip nodes, ∀ boost ∈ place.2.boost?, ∀ ability times,
    abilityBoost ability times ∈ boost.2.valuesOf "Boosts" →
      ∀ who : Character, who.MeetsAll place.2.spell.entry →
        who.score ability + times ≤ Expansion.scoreCap

/-- The nodes of a tree of picks, each of them guarded. -/
def IsGuardedTree (feat : Feat) (spot : Spot) (nodes : List Woven) : Prop :=
  ∃ paths : List (List Nat), paths.Pairwise (· < ·) ∧
    (∀ path, path ∈ paths ↔ Slot.IsLegal spot.made spot.slots path) ∧
    List.Forall₂ (IsNodeAt feat spot) paths nodes ∧ IsGuarded feat spot paths nodes

theorem IsPickTree.guarded {feat : Feat} {spot : Spot} {nodes : List Woven}
    (tree : IsPickTree feat spot nodes) : IsGuardedTree feat spot nodes := by
  obtain ⟨paths, sorted, legal, each⟩ := tree
  refine ⟨paths, sorted, legal, each, ?_, ?_, ?_⟩
  · intro place member
    rw [(List.forall₂_zip each member).conditions, Spot.conditionsAt_filter]
  · intro above isAbove below isBelow along who meets
    exact (List.forall₂_zip each isAbove).meetsAll_above (List.forall₂_zip each isBelow) along who
      meets
  · intro place member boost granted ability times raises who meets
    exact (List.forall₂_zip each member).score_add_le granted raises who meets

end Weaving

namespace Loom

open Weaving

variable (loom : Loom)

def IsGuardedPlot (plot : Guid × Vantage) (nodes : List Woven) : Prop :=
  match woven? plot with
  | none => nodes = []
  | some feat => IsGuardedTree feat (loom.spot plot.2 feat) nodes

variable {loom}

theorem IsGrown.guarded {plot : Guid × Vantage} {nodes : List Woven}
    (grown : loom.IsGrown plot nodes) : loom.IsGuardedPlot plot nodes := by
  unfold IsGrown at grown
  unfold IsGuardedPlot
  cases known : woven? plot with
  | none => rwa [known] at grown
  | some feat =>
    rw [known] at grown
    exact IsPickTree.guarded grown

/-- The spells of a run that does not end early are kept by the requirement of their feat, by one
condition for every ability picked by then, and by the passives of a feat that is not taken twice.
Whoever can use a spell can use all spells that lead to it, and its boost raises no score of theirs
above the cap. -/
theorem weave_guards_spells (loom : Loom) (fabric : Fabric)
    (ended : (loom.weave fabric).fault = none) :
    ∃ nodes : List (List Woven), List.Forall₂ loom.IsGuardedPlot loom.plots nodes ∧
      (loom.weave fabric).fabric.spells = fabric.spells.appendAll
        (nodes.flatten.map fun node => (node.spell.module, node.spell.entry)) ∧
      (loom.weave fabric).fabric.boosts = fabric.boosts.appendAll
        (nodes.flatten.filterMap Woven.boost?) := by
  obtain ⟨feats, left, grown, result⟩ := weave_ok ended
  obtain ⟨nodes, same, trees⟩ := growAll_ok grown
  refine ⟨nodes, trees.imp fun _ _ => IsGrown.guarded, ?_⟩
  rw [result, ← same]
  exact Fabric.foldl_addFeat loom.base fabric feats

/-- A feat with a requirement and a passive whose two picks may be the same ability. -/
theorem weave_guards_spells_twice :
    let list : OrderedMap Guid (List String) := .ofList [(Guid.nil, ["Strength", "Wisdom"])]
    let feat : Feat :=
      { id := Guid.nil, name := "Gift", passives := ["Gifted"], requirements := some "IsProud()",
        selectors := [.ability ⟨Guid.nil, 2, 2, "Score"⟩] }
    let loom : Loom :=
      { modules := [{ name := some "Own", feats := [feat], lists := .ofList [(.ability, list)] }] }
    (loom.weave {}).fault = none ∧ (loom.weave {}).fabric.boostCount = 4 ∧
      ∃ nodes : List (List Woven), List.Forall₂ loom.IsGuardedPlot loom.plots nodes ∧
        (loom.weave {}).fabric.spells = OrderedMap.empty.appendAll
          (nodes.flatten.map fun node => (node.spell.module, node.spell.entry)) ∧
        (loom.weave {}).fabric.boosts = OrderedMap.empty.appendAll
          (nodes.flatten.filterMap Woven.boost?) := by
  intro list feat loom
  have ended : (loom.weave {}).fault = none := by decide
  refine ⟨ended, by decide, ?_⟩
  exact weave_guards_spells loom {} ended

end Loom

end FeatLoom
