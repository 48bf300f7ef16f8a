import FeatLoom.Proofs.Weaving.Growth
import FeatLoom.Proofs.Weaving.Site
import FeatLoom.Proofs.Weaving.Spot
import FeatLoom.Weaving.Loom

/-!
# Trees of picks

What grows at a site without ending early is the tree of the picks from there. Its nodes, in the
order in which they grow, are those of the legal paths, each path before those that go on from it.
-/

namespace FeatLoom.Weaving

namespace Site

def spot (site : Site) (made : List String) (left : List AbilityChoice) : Spot :=
  { stem := site.stem, vantage := site.vantage, container := site.container, made, left }

variable {site : Site} {made : List String} {items left : List AbilityChoice}
  {turn : AbilityChoice}

theorem spellNameAt_nil : (site.spot made left).spellNameAt [] = site.spellName := by
  rw [Spot.spellNameAt, Spot.stemAt, List.zipWith_nil_right]
  rfl

theorem boostNameAt_nil : (site.spot made left).boostNameAt [] = site.boostName := by
  rw [Spot.boostNameAt, Spot.stemAt, List.zipWith_nil_right]
  rfl

theorem picksAt_nil : (site.spot made left).picksAt [] = made := by
  rw [Spot.picksAt, Slot.names, List.zipWith_nil_right, List.append_nil]
  rfl

theorem boostsAt_nil (raised : site.state.raised = tally made) :
    (site.spot made left).boostsAt [] = site.state.boosts := by
  rw [Spot.boostsAt, picksAt_nil, Expansion.boosts, raised, tally, List.map_map]
  rfl

theorem conditionsAt_nil (raised : site.state.raised = tally made) (feat : Feat) :
    ((site.spot made left).conditionsAt [] feat).filter (· ≠ "") = site.conditions feat := by
  rw [Spot.conditionsAt, picksAt_nil, conditions, Expansion.requirements, raised, tally,
    List.map_map]
  rfl

theorem isNodeAt_opening {feat : Feat} (raised : site.state.raised = tally made) {node : Woven}
    (spell : node.spell = site.openingSpell feat) (inner : node.isLeaf = false)
    (boost : node.boost? = none) : IsNodeAt feat (site.spot made (turn :: left)) [] node where
  name := by rw [spell, name_openingSpell, spellNameAt_nil]
  module := by
    rw [spell]
    rfl
  containers := by
    rw [spell, containers_openingSpell]
    rfl
  conditions := by rw [spell, conditions_openingSpell, conditionsAt_nil raised]
  isLeaf_iff := by simp [inner, spot]
  flags := by simp [spell, flags_openingSpell, inner]
  properties := by simp [spell, properties_openingSpell, inner]
  isSome_boost := by simp [boost, inner]
  boost := by simp [boost]

theorem isNodeAt_leaf (feat : Feat) (raised : site.state.raised = tally made) :
    IsNodeAt feat (site.spot made []) [] (.leaf (site.applyingSpell feat) (some (site.boost feat)))
    where
  name := by rw [Woven.spell, name_applyingSpell, spellNameAt_nil]
  module := rfl
  containers := by
    rw [Woven.spell, containers_applyingSpell]
    rfl
  conditions := by rw [Woven.spell, conditions_applyingSpell, conditionsAt_nil raised]
  isLeaf_iff := by simp [Woven.isLeaf, spot]
  flags := by
    rw [Woven.spell, flags_applyingSpell]
    rfl
  properties := by
    rw [Woven.spell, properties_applyingSpell, boostNameAt_nil]
    rfl
  isSome_boost := by simp [Woven.boost?, Woven.isLeaf]
  boost := by
    intro granted there
    obtain rfl := Option.some.inj there
    refine ⟨rfl, ?_, ?_, ?_⟩
    · rw [name_boost, boostNameAt_nil]
    · exact passives_boost site feat
    · rw [boosts_boost, boostsAt_nil raised]

section Turn

variable (awaits : Expansion.Awaits id site.state made items (turn :: left))

include awaits

theorem current?_eq : site.state.current? = some (.ability turn) := by
  obtain ⟨rest, rfl⟩ := awaits.items_eq
  rw [Expansion.current?, awaits.pending]
  rfl

theorem choice_missing (missing : Lookup.supplier? .ability turn.list site.vantage.stack = none) :
    site.choice = .ok (.missing .ability turn.list) := by
  rw [choice, current?_eq awaits]
  simp only [Selector.kind, ListKind.ofSelector?, Selector.list?, missing]

theorem choice_picks {supplier : Vantage} {candidates : List String}
    (found : Lookup.supplier? .ability turn.list site.vantage.stack =
      some (supplier, candidates)) :
    site.choice = .ok (.picks supplier .ability
      ((Slot.legal made ⟨candidates, turn.max⟩).map fun pick =>
        (pick.1, site.state.pick turn pick.1))) := by
  have names : (Slot.legal made ⟨candidates, turn.max⟩).map Prod.fst =
      candidates.filter fun name => made.count name < (id turn).max :=
    Slot.map_fst_legal made ⟨candidates, turn.max⟩
  have expanded := awaits.expand_eq candidates
  rw [← names, List.map_map] at expanded
  rw [choice, current?_eq awaits]
  simp only [Selector.kind, ListKind.ofSelector?, Selector.list?, found, expanded]
  rfl

theorem awaits_after {next : Site} {supplier : Vantage} {kind : ListKind} {name : String}
    (after : site.after? supplier kind (name, site.state.pick turn name) = some next) :
    ∃ pending, Expansion.Awaits id next.state (made ++ [name]) pending left := by
  obtain ⟨pending, _, following⟩ := awaits.pick name
  rw [state_after after]
  exact ⟨pending, following⟩

theorem picks_of_turn {supplier : Vantage} {kind : ListKind}
    {options : List (String × Expansion)}
    (chosen : site.choice = .ok (.picks supplier kind options)) :
    kind = .ability ∧ ∃ candidates,
      Lookup.supplier? .ability turn.list site.vantage.stack = some (supplier, candidates) ∧
      ∀ option ∈ options, option.1 ∈ candidates ∧ option.2 = site.state.pick turn option.1 := by
  cases found : Lookup.supplier? .ability turn.list site.vantage.stack with
  | none =>
    rw [choice_missing awaits found] at chosen
    cases chosen
  | some supply =>
    obtain ⟨owner, candidates⟩ := supply
    rw [choice_picks awaits found] at chosen
    cases chosen
    refine ⟨rfl, candidates, rfl, fun option picked => ?_⟩
    obtain ⟨⟨name, position⟩, legal, rfl⟩ := List.mem_map.1 picked
    obtain ⟨there, _⟩ := (Slot.mem_legal ..).1 legal
    exact ⟨List.mem_of_getElem? there, rfl⟩

end Turn

theorem choice_complete (awaits : Expansion.Awaits id site.state made items []) :
    site.choice = .ok (.picks site.vantage .ability []) := by
  rw [choice, awaits.eq_of_nil]
  rfl

theorem exists_turn_of_picked (awaits : Expansion.Awaits id site.state made items left)
    {supplier : Vantage} {kind : ListKind} {options : List (String × Expansion)}
    {option : String × Expansion} (chosen : site.choice = .ok (.picks supplier kind options))
    (picked : option ∈ options) : ∃ turn rest, left = turn :: rest := by
  cases left with
  | nil =>
    rw [choice_complete awaits] at chosen
    cases chosen
    cases picked
  | cons turn rest => exact ⟨turn, rest, rfl⟩

section Slots

variable {supplier : Vantage} {candidates : List String}

theorem slots_missing (missing : Lookup.supplier? .ability turn.list site.vantage.stack = none) :
    (site.spot made (turn :: left)).slots = [] := by
  rw [Spot.slots, Spot.stages, spot, Stage.along, missing]
  rfl

theorem stages_found (found : Lookup.supplier? .ability turn.list site.vantage.stack =
      some (supplier, candidates)) :
    (site.spot made (turn :: left)).stages =
      ⟨⟨candidates, turn.max⟩, supplier⟩ :: Stage.along supplier left := by
  rw [Spot.stages, spot, Stage.along, found]

theorem slots_found (found : Lookup.supplier? .ability turn.list site.vantage.stack =
      some (supplier, candidates)) :
    (site.spot made (turn :: left)).slots =
      ⟨candidates, turn.max⟩ :: (Stage.along supplier left).map Stage.toSlot := by
  rw [Spot.slots, stages_found found]
  rfl

theorem leads_after {next : Site} {position : Nat} {name : String} {state : Expansion}
    (found : Lookup.supplier? .ability turn.list site.vantage.stack =
      some (supplier, candidates))
    (there : candidates[position]? = some name)
    (after : site.after? supplier .ability (name, state) = some next) :
    (site.spot made (turn :: left)).Leads ⟨⟨candidates, turn.max⟩, supplier⟩ position name
      (next.spot (made ++ [name]) left) where
  stages_eq := by
    rw [stages_found found, Spot.stages, spot, vantage_after after]
  there := there
  stem_eq := by
    have picked : candidates.getD position "" = name := by
      rw [List.getD_eq_getElem?_getD, there, Option.getD_some]
    rw [Stage.suffix, picked, spot, stem_after after]
    simp only [spot, String.append_assoc]
  vantage_eq := vantage_after after
  container_eq := by
    rw [spellNameAt_nil]
    exact container_after after
  made_eq := rfl
  left_eq := rfl

end Slots

end Site

theorem module_spell_grow (feat : Feat) (limit : Int) (depth : Nat) (site : Site)
    (allowed : Nat) : (grow feat limit depth site allowed).1.spell.module = site.moduleName := by
  cases depth with
  | zero =>
    rw [grow, growLeaf]
    split <;> rfl
  | succ depth =>
    rw [grow]
    split <;> rfl

theorem name_spell_grow (feat : Feat) (limit : Int) (depth : Nat) (site : Site) (allowed : Nat) :
    (grow feat limit depth site allowed).1.spell.entry.name = site.spellName := by
  cases depth with
  | zero =>
    rw [grow, growLeaf]
    split
    · exact site.name_endingSpell feat
    · exact site.name_applyingSpell feat
  | succ depth =>
    rw [grow]
    split
    · exact site.name_openingSpell feat
    · exact site.name_openingSpell feat
    · exact site.name_openingSpell feat
    · exact site.name_openingSpell feat

theorem grow_isNodeAt {feat : Feat} {limit : Int} {site : Site} {made : List String}
    {items left : List AbilityChoice} {allowed rest : Nat} {tree : Woven}
    (awaits : Expansion.Awaits id site.state made items left)
    (ended : grow feat limit left.length site allowed = (tree, .ok rest)) :
    List.Forall₂ (IsNodeAt feat (site.spot made left))
      (Slot.pathsFrom made (site.spot made left).slots) tree.nodes := by
  -- A pick changes the site, the picks that were made and the queue, so all of them vary.
  induction left generalizing site made items allowed rest tree with
  | nil =>
    have raised : site.state.raised = tally made := awaits.raised
    rw [List.length_nil, grow, growLeaf] at ended
    split at ended
    · cases ended
    · obtain ⟨rfl, _⟩ := Prod.mk.inj ended
      exact .cons (Site.isNodeAt_leaf feat raised) .nil
  | cons turn left ih =>
    have raised : site.state.raised = tally made := awaits.raised
    cases found : Lookup.supplier? .ability turn.list site.vantage.stack with
    | none =>
      rw [List.length_cons, grow, Site.choice_missing awaits found] at ended
      obtain ⟨rfl, _⟩ := Prod.mk.inj ended
      rw [Site.slots_missing found]
      exact .cons (Site.isNodeAt_opening raised rfl rfl rfl) .nil
    | some supply =>
      obtain ⟨supplier, candidates⟩ := supply
      have chosen := Site.choice_picks awaits found
      rw [Site.slots_found found, Slot.pathsFrom]
      by_cases stuck : Slot.legal made ⟨candidates, turn.max⟩ = []
      · rw [stuck] at chosen ⊢
        rw [List.length_cons, grow, chosen] at ended
        obtain ⟨rfl, _⟩ := Prod.mk.inj ended
        exact .cons (Site.isNodeAt_opening raised rfl rfl rfl) .nil
      · obtain ⟨children, rfl, each⟩ := grow_of_picks_ok chosen (by simpa using stuck) ended
        rw [Woven.nodes, Woven.nodesOf_eq_flatMap]
        refine .cons (Site.isNodeAt_opening raised rfl rfl rfl) ?_
        -- Candidates can repeat, so the children are matched with picks at their positions.
        rw [List.forall₂_map_left_iff] at each
        have legal := (List.forall₂_and_left ..).2 ⟨fun pick member => member, each⟩
        refine List.rel_flatMap legal ?_
        rintro ⟨name, position⟩ child ⟨picked, next, before, after, there, ended⟩
        rw [List.forall₂_map_left_iff]
        obtain ⟨inList, _⟩ := (Slot.mem_legal ..).1 picked
        have leads : (site.spot made (turn :: left)).Leads ⟨⟨candidates, turn.max⟩, supplier⟩
            position name (next.spot (made ++ [name]) left) := Site.leads_after found inList there
        obtain ⟨pending, awaited⟩ := Site.awaits_after awaits there
        have nodes := ih awaited ended
        rw [Spot.slots, Spot.stages, leads.vantage_eq] at nodes
        exact nodes.imp fun path node isNode => isNode.cons leads

/-- Growth that does not end early is the tree of all picks for the turns that are left. -/
theorem grow_isPickTree {feat : Feat} {limit : Int} {site : Site} {made : List String}
    {items left : List AbilityChoice} {allowed rest : Nat} {tree : Woven}
    (awaits : Expansion.Awaits id site.state made items left)
    (ended : grow feat limit left.length site allowed = (tree, .ok rest)) :
    IsPickTree feat (site.spot made left) tree.nodes := by
  refine ⟨Slot.pathsFrom made (site.spot made left).slots, ?_, ?_, ?_⟩
  · exact Slot.pathsFrom_pairwise made _
  · exact Slot.mem_pathsFrom made _
  · exact grow_isNodeAt awaits ended

end FeatLoom.Weaving
