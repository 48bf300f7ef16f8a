import FeatLoom.Proofs.Lookup
import FeatLoom.Proofs.Weaving.Accounting
import FeatLoom.Proofs.Weaving.Agreement

/-!
# What the base spell lists

The base spell has one tier for each feat, in the order in which the feats first occur. The tier
registers every module that defines the feat, with the root spell of its first definition or, where
that asks for more than abilities, with no spell. Such a registration masks the modules below, so it
stays as long as the tier does; pruning takes out the tiers that are without any root spell.
-/

namespace FeatLoom

namespace Module

def rootSpell? (m : Module) (id : Guid) : Option String :=
  ((m.feat? id).filter Feat.isSupported).map fun feat =>
    Weaving.spellPrefix ++ (feat.name ++ "_" ++ m.normalizedName)

def registration? (m : Module) (id : Guid) : Option (String × Option String) :=
  (m.feat? id).map fun _ => (m.normalizedName, m.rootSpell? id)

theorem rootSpell?_ne_empty (m : Module) (id : Guid) : m.rootSpell? id ≠ some "" := by
  simp [rootSpell?, Weaving.spellPrefix]

end Module

namespace Tier

/-- Modules that are not in a tier yet are listed after the others, in the order in which they are
registered. -/
theorem entries_registerAll {tier : Tier} {entries : List (String × Option String)}
    (fresh : (tier.keys ++ entries.map Prod.fst).Nodup)
    (named : ∀ entry ∈ entries, entry.2 ≠ some "") :
    (registerAll tier entries).entries =
      tier.entries ++ entries.map fun entry => (entry.1, entry.2.toList) := by
  induction entries generalizing tier with
  | nil => exact (List.append_nil _).symm
  | cons entry entries ih =>
    rw [List.forall_mem_cons] at named
    obtain ⟨module, spell⟩ := entry
    have unknown : module ∉ tier.keys := fun known =>
      (List.nodup_append'.1 fresh).2.2 known List.mem_cons_self
    have listed : (spell.filter (· ≠ "")).toList = spell.toList := by
      cases spell with
      | none => rfl
      | some spell =>
        have proper : spell ≠ "" := fun empty => named.1 (congrArg some empty)
        rw [Option.filter_some, if_pos (decide_eq_true proper)]
    have first : (tier.register module spell).entries =
        tier.entries ++ [(module, spell.toList)] := by
      rw [register, OrderedMap.entries_alter_of_fresh unknown, listed]
      rfl
    have keys : (tier.register module spell).keys = tier.keys ++ [module] := by
      rw [OrderedMap.keys, first, List.map_append]
      rfl
    have rest : ((tier.register module spell).keys ++ entries.map Prod.fst).Nodup := by
      rw [keys, ← List.append_cons]
      exact fresh
    change (registerAll (tier.register module spell) entries).entries = _
    rw [ih rest named.2, first, List.append_assoc]
    rfl

end Tier

namespace Weaving

/-- What can be read off the growth of each item can be read off that of all items. -/
theorem flatMap_growEach {α β γ : Type} {grow : α → Nat → Growth (Option β)} {items : List α}
    {read : β → List γ} {due : α → List γ} {before after : Nat} {trees : List β}
    (ended : growEach grow items before = (trees, .ok after))
    (each : ∀ item before after tree, grow item before = (tree, .ok after) →
      tree.toList.flatMap read = due item) :
    trees.flatMap read = items.flatMap due := by
  obtain ⟨grown, rfl, all⟩ := growEach_ok ended
  clear ended
  induction all with
  | nil => rfl
  | cons first _ ih =>
    obtain ⟨_, _, own⟩ := first
    rw [List.flatMap_cons, List.flatMap_append, each _ _ _ _ own, ih, List.flatMap_cons]

end Weaving

namespace Loom

open Weaving

variable {loom : Loom}

def registrations (loom : Loom) (id : Guid) : List (String × Option String) :=
  loom.modules.filterMap fun m => m.registration? id

theorem registration_growRoot {id : Guid} {vantage : Vantage} {before after : Nat}
    {root : Option Root} (grown : loom.growRoot id vantage before = (root, .ok after)) :
    root.toList.flatMap (fun root => [root.registration]) =
      (vantage.module.registration? id).toList := by
  unfold growRoot at grown
  cases found : vantage.module.feat? id with
  | none =>
    rw [found] at grown
    obtain ⟨rfl, _⟩ := Prod.mk.inj grown
    rw [Module.registration?, found]
    rfl
  | some feat =>
    simp only [found] at grown
    rw [Module.registration?, Module.rootSpell?, found]
    by_cases supported : feat.isSupported
    · rw [if_pos supported] at grown
      obtain ⟨rfl, _⟩ := Prod.mk.inj grown
      rw [Option.filter_some, if_pos supported, Option.toList_some, List.flatMap_singleton,
        Root.registration, name_spell_grow, module_spell_grow]
      rfl
    · rw [if_neg supported] at grown
      obtain ⟨rfl, _⟩ := Prod.mk.inj grown
      rw [Option.filter_some, if_neg supported]
      rfl

theorem registrations_growFeat {id : Guid} {before after : Nat} {roots : Option (List Root)}
    (grown : loom.growFeat id before = (roots, .ok after)) :
    roots.toList.flatMap (fun roots => [roots.map Root.registration]) =
      [loom.registrations id] := by
  obtain ⟨trees, rfl, all⟩ := growFeat_ok grown
  have each := flatMap_growEach all fun _ _ _ _ => registration_growRoot
  have stacked := congrArg (List.flatMap fun m => (m.registration? id).toList)
    (Vantage.map_module_all loom.modules)
  rw [List.flatMap_map] at stacked
  rw [← List.map_eq_flatMap, stacked] at each
  rw [Option.toList_some, List.flatMap_singleton, each, registrations,
    List.filterMap_eq_flatMap_toList]

theorem registrations_growAll {before after : Nat} {feats : List (List Root)}
    (grown : loom.growAll before = (feats, .ok after)) :
    feats.map (fun roots => roots.map Root.registration) =
      loom.featIds.map loom.registrations := by
  have each := flatMap_growEach grown fun _ _ _ _ => registrations_growFeat
  rwa [← List.map_eq_flatMap, ← List.map_eq_flatMap] at each

end Loom

/-! ## The tiers of the base spell -/

/-- The tiers that nodes open are not under the base spell, so it has those of the feats only. -/
theorem Fabric.tiersUnder_foldl_addFeat {base : String} {feats : List (List Root)}
    (apart : ∀ node ∈ feats.flatMap Root.nodesOf, node.spell.entry.name ≠ base) :
    (feats.foldl (addFeat base) {}).wiring.tiersUnder base = feats.map Root.tierOf := by
  rw [wiring_foldl_addFeat, Wiring.tiersUnder_addTiers Wiring.isNumbered_empty]
  change [] ++ _ = _
  rw [List.nil_append]
  induction feats with
  | nil => rfl
  | cons roots feats ih =>
    rw [List.flatMap_cons, List.forall_mem_append] at apart
    have own : OrderedMap.itemsAt base ((Root.nodesOf roots).filterMap Woven.tier?) = [] := by
      rw [OrderedMap.itemsAt_eq_nil_iff]
      intro member
      obtain ⟨tier, opened, rfl⟩ := List.mem_map.1 member
      obtain ⟨node, inRoots, opens⟩ := List.mem_filterMap.1 opened
      exact apart.1 node inRoots (Woven.spell_name_of_tier? opens).symm
    have first (others : List (String × Tier)) :
        OrderedMap.itemsAt base ((base, Root.tierOf roots) ::
          (Root.nodesOf roots).filterMap Woven.tier? ++ others) =
          Root.tierOf roots :: OrderedMap.itemsAt base others := by
      rw [List.cons_append, OrderedMap.itemsAt_cons, if_pos rfl, OrderedMap.itemsAt_append, own]
      rfl
    rw [List.flatMap_cons, first, ih apart.2, List.map_cons]

namespace Loom

open Weaving

variable {loom : Loom}

def occurrences (loom : Loom) : List Guid := loom.modules.flatMap fun m => m.feats.map Feat.id

def listing (loom : Loom) (id : Guid) : List (String × List String) :=
  loom.modules.filterMap fun m =>
    (m.feat? id).map fun _ => (m.normalizedName, (m.rootSpell? id).toList)

def isRooted (loom : Loom) (id : Guid) : Bool := loom.modules.any fun m => (m.rootSpell? id).isSome

theorem listing_eq_map (id : Guid) :
    loom.listing id = (loom.registrations id).map fun entry => (entry.1, entry.2.toList) := by
  rw [registrations, List.map_filterMap, listing]
  simp only [Module.registration?, Option.map_map]
  rfl

theorem nodup_registrations (distinct : (loom.modules.map Module.normalizedName).Nodup)
    (id : Guid) : ((loom.registrations id).map Prod.fst).Nodup := by
  refine List.Nodup.sublist ?_ distinct
  unfold registrations
  induction loom.modules with
  | nil => exact List.Sublist.slnil
  | cons m modules ih =>
    cases defined : m.feat? id with
    | none =>
      rw [List.filterMap_cons_none (by rw [Module.registration?, defined]; rfl)]
      exact ih.cons _
    | some feat =>
      rw [List.filterMap_cons_some (by rw [Module.registration?, defined]; rfl)]
      exact ih.cons_cons _

theorem named_registrations (id : Guid) : ∀ entry ∈ loom.registrations id, entry.2 ≠ some "" := by
  intro entry member
  obtain ⟨m, _, registers⟩ := List.mem_filterMap.1 member
  obtain ⟨_, _, rfl⟩ := Option.map_eq_some_iff.1 registers
  exact m.rootSpell?_ne_empty id

theorem any_listing (id : Guid) :
    ((loom.listing id).any fun entry => !entry.2.isEmpty) = loom.isRooted id := by
  rw [listing, List.any_filterMap, isRooted]
  apply List.any_congr rfl
  intro m
  cases defined : m.feat? id with
  | none => simp [Module.rootSpell?, defined]
  | some feat => cases m.rootSpell? id <;> rfl

/-- What the base spell lists after all feats have grown. -/
theorem entries_tierOf_growAll (distinct : (loom.modules.map Module.normalizedName).Nodup)
    {before after : Nat} {feats : List (List Root)}
    (grown : loom.growAll before = (feats, .ok after)) :
    (feats.map Root.tierOf).map OrderedMap.entries = loom.featIds.map loom.listing := by
  have registered := registrations_growAll grown
  have each : ∀ roots ∈ feats, (Root.tierOf roots).entries =
      (roots.map Root.registration).map fun entry => (entry.1, entry.2.toList) := by
    intro roots member
    have known : roots.map Root.registration ∈ loom.featIds.map loom.registrations := by
      rw [← registered]
      exact List.mem_map_of_mem member
    obtain ⟨id, _, same⟩ := List.mem_map.1 known
    have fresh : ((OrderedMap.empty : Tier).keys ++
        (roots.map Root.registration).map Prod.fst).Nodup := by
      rw [← same]
      exact nodup_registrations distinct id
    have named : ∀ entry ∈ roots.map Root.registration, entry.2 ≠ some "" := by
      rw [← same]
      exact named_registrations id
    rw [Root.tierOf_eq_registerAll, Tier.entries_registerAll fresh named]
    rfl
  calc (feats.map Root.tierOf).map OrderedMap.entries
      = feats.map (fun roots =>
          (roots.map Root.registration).map fun entry => (entry.1, entry.2.toList)) := by
        rw [List.map_map]
        exact List.map_congr_left each
    _ = (loom.featIds.map loom.registrations).map
          (List.map fun entry => (entry.1, entry.2.toList)) := by
        rw [← registered, List.map_map]
        rfl
    _ = loom.featIds.map loom.listing := by
        rw [List.map_map]
        exact List.map_congr_left fun id _ => (loom.listing_eq_map id).symm

/-- What grows in a plot starts with the root spell there, if there is one; otherwise nothing
grows. -/
def StartsAtRoot (plot : Guid × Vantage) (nodes : List Woven) : Prop :=
  (nodes.head?.map fun node => (node.spell.module, node.spell.entry.name)) =
    (plot.2.module.rootSpell? plot.1).map (Prod.mk plot.2.module.normalizedName)

theorem startsAtRoot_growRoot {id : Guid} {vantage : Vantage} {before after : Nat}
    {root : Option Root} (grown : loom.growRoot id vantage before = (root, .ok after)) :
    StartsAtRoot (id, vantage) (Root.nodesOf root.toList) := by
  have rooted : vantage.module.rootSpell? id = (woven? (id, vantage)).map fun feat =>
      spellPrefix ++ (feat.name ++ "_" ++ vantage.module.normalizedName) := rfl
  unfold StartsAtRoot
  rcases growRoot_cases grown with ⟨bare, none⟩ | ⟨feat, tree, woven, _, nodes, ended⟩
  · rw [rooted, bare, none]
    rfl
  · obtain ⟨rfl, _⟩ := Prod.mk.inj ended
    have first (tree : Woven) : tree.nodes.head? = some tree := by cases tree <;> rfl
    rw [rooted, woven, nodes, first, Option.map_some, name_spell_grow, module_spell_grow]
    rfl

/-- In a run that does not end early, the base spell has one tier for every feat, in the order in
which the feats first occur. A tier lists the modules that define its feat, each with its root spell
or, where the first definition cannot be woven, with nothing; then nothing has grown there. Pruning
keeps the tiers with some root spell as they are and takes out the others. -/
theorem base_tiers_weave (loom : Loom)
    (distinct : (loom.modules.map Module.normalizedName).Nodup)
    (apart : ∀ entry ∈ (loom.weave {}).fabric.entries, entry.name ≠ loom.base)
    (ended : (loom.weave {}).fault = none) :
    (∀ id, id ∈ loom.featIds ↔ id ∈ loom.occurrences) ∧
    (loom.featIds.Pairwise fun first second =>
      loom.occurrences.idxOf first < loom.occurrences.idxOf second) ∧
    ((loom.weave {}).fabric.wiring.tiersUnder loom.base).map OrderedMap.entries =
      loom.featIds.map loom.listing ∧
    ((loom.weave {}).fabric.prune.wiring.tiersUnder loom.base).map OrderedMap.entries =
      (loom.featIds.filter loom.isRooted).map loom.listing ∧
    ∃ nodes : List (List Woven), List.Forall₂ StartsAtRoot loom.plots nodes ∧
      (loom.weave {}).fabric.spells = OrderedMap.empty.appendAll
        (nodes.flatten.map fun node => (node.spell.module, node.spell.entry)) ∧
      (loom.weave {}).fabric.boosts = OrderedMap.empty.appendAll
        (nodes.flatten.filterMap Woven.boost?) := by
  obtain ⟨feats, left, grown, woven⟩ := weave_ok ended
  have below : ∀ node ∈ feats.flatMap Root.nodesOf, node.spell.entry.name ≠ loom.base := by
    intro node member
    have recorded : node ∈ loom.record.nodes := by rwa [nodes_record, grown]
    exact apart _ (entries_weave_perm.mem_iff.2 (List.mem_map_of_mem recorded))
  have listed : ((loom.weave {}).fabric.wiring.tiersUnder loom.base).map OrderedMap.entries =
      loom.featIds.map loom.listing := by
    rw [woven, Fabric.tiersUnder_foldl_addFeat below, entries_tierOf_growAll distinct grown]
  refine ⟨fun id => List.mem_eraseDups, OrderedMap.pairwise_idxOf_eraseDups _, listed, ?_, ?_⟩
  · have hasSpells : Tier.hasSpells =
        (fun entries => entries.any fun entry => !entry.2.isEmpty) ∘ OrderedMap.entries := rfl
    have rooted : (fun entries => entries.any fun entry => !entry.2.isEmpty) ∘ loom.listing =
        loom.isRooted := funext any_listing
    calc ((loom.weave {}).fabric.prune.wiring.tiersUnder loom.base).map OrderedMap.entries
        = (((loom.weave {}).fabric.wiring.tiersUnder loom.base).filter Tier.hasSpells).map
            OrderedMap.entries := congrArg _ (Wiring.tiersUnder_prune ..)
      _ = (loom.featIds.map loom.listing).filter
            (fun entries => entries.any fun entry => !entry.2.isEmpty) := by
          rw [← listed, List.filter_map, hasSpells]
      _ = (loom.featIds.filter loom.isRooted).map loom.listing := by
          rw [List.filter_map, rooted]
  · obtain ⟨nodes, same, starts⟩ := growAll_plots startsAtRoot_growRoot grown
    refine ⟨nodes, starts, ?_⟩
    rw [woven, ← same]
    exact Fabric.foldl_addFeat loom.base {} feats

/-- The upper module defines a feat twice; the first definition counts, and it masks the one below.
The other feat cannot be woven anywhere. -/
theorem base_tiers_weave_masked :
    let list : OrderedMap Guid (List String) := .ofList [(Guid.nil, ["Strength", "Wisdom"])]
    let gift : Feat :=
      { id := Guid.nil, name := "Gift", selectors := [.ability ⟨Guid.nil, 1, 1, "Score"⟩] }
    let study : Feat :=
      { id := Guid.ofNat 1, name := "Study", selectors := [.skill Guid.nil 1 none] }
    let upper : Module := { name := some "Upper", feats := [{ study with id := Guid.nil }, gift] }
    let lower : Module :=
      { name := some "Lower", feats := [study, gift, study], lists := .ofList [(.ability, list)] }
    let loom : Loom := { modules := [upper, lower] }
    (loom.modules.map Module.normalizedName).Nodup ∧
      (∀ entry ∈ (loom.weave {}).fabric.entries, entry.name ≠ loom.base) ∧
      (loom.weave {}).fault = none ∧ (loom.weave {}).fabric.spellCount = 3 ∧
      ((loom.weave {}).fabric.wiring.tiersUnder loom.base).map OrderedMap.entries =
        [[("Upper", []), ("Lower", ["E6_Shout_Gift_Lower"])], [("Lower", [])]] ∧
      ((loom.weave {}).fabric.prune.wiring.tiersUnder loom.base).map OrderedMap.entries =
        [[("Upper", []), ("Lower", ["E6_Shout_Gift_Lower"])]] := by
  intro list gift study upper lower loom
  have distinct : (loom.modules.map Module.normalizedName).Nodup := by decide
  have apart : ∀ entry ∈ (loom.weave {}).fabric.entries, entry.name ≠ loom.base := by decide
  have ended : (loom.weave {}).fault = none := by decide
  obtain ⟨_, _, listed, kept, _⟩ := base_tiers_weave loom distinct apart ended
  refine ⟨distinct, apart, ended, by decide, ?_, ?_⟩
  · rw [listed]
    decide
  · rw [kept]
    decide

end Loom

end FeatLoom
