import FeatLoom.Proofs.OrderedMap.Gather
import FeatLoom.Wiring

/-!
# Links of the wiring

A link says what a spell of a module is found under. A tier holds a link for every spell that it
lists, and a wiring those of the tiers of all parents. As long as every number under a parent is
that of a tier, adding a tier adds its links and no others; pruning takes out no link.
-/

namespace FeatLoom

structure Link where
  containers : List String
  module : String
  spell : String
  deriving DecidableEq

namespace Tier

def links (parent : String) (tier : Tier) : List Link :=
  tier.gather fun module spell => [⟨[parent], module, spell⟩]

theorem links_empty (parent : String) : links parent OrderedMap.empty = [] := rfl

theorem links_register_none (parent : String) (tier : Tier) (module : String) :
    (links parent (tier.register module none)).Perm (links parent tier) := by
  have grown := tier.gather_alter_perm (fun module spell => [(⟨[parent], module, spell⟩ : Link)])
    module []
  rwa [List.flatMap_nil, List.append_nil] at grown

theorem links_register_some (parent : String) (tier : Tier) (module : String) {spell : String}
    (named : spell ≠ "") :
    (links parent (tier.register module (some spell))).Perm
      (links parent tier ++ [⟨[parent], module, spell⟩]) := by
  have listed : (Option.filter (· ≠ "") (some spell)).toList = [spell] := by
    rw [Option.filter_some, if_pos (by simpa using named), Option.toList_some]
  rw [register, listed]
  exact tier.gather_alter_perm _ module [spell]

def registerAll (tier : Tier) (entries : List (String × Option String)) : Tier :=
  entries.foldl (fun grown entry => register grown entry.1 entry.2) tier

theorem links_registerAll (parent : String) (tier : Tier) (entries : List (String × Option String))
    (named : ∀ entry ∈ entries, entry.2 ≠ some "") :
    (links parent (registerAll tier entries)).Perm
      (links parent tier ++ entries.flatMap fun entry =>
        entry.2.toList.map fun spell => ⟨[parent], entry.1, spell⟩) := by
  induction entries generalizing tier with
  | nil => simp [registerAll]
  | cons entry entries ih =>
    rw [List.forall_mem_cons] at named
    refine (ih (tier.register entry.1 entry.2) named.2).trans ?_
    rw [List.flatMap_cons, ← List.append_assoc]
    apply List.Perm.append_right
    obtain ⟨module, spell⟩ := entry
    cases spell with
    | none => simpa using links_register_none parent tier module
    | some spell => exact links_register_some parent tier module fun empty => named.1 (empty ▸ rfl)

theorem links_eq_nil (parent : String) {tier : Tier} (hollow : tier.hasSpells = false) :
    links parent tier = [] := by
  unfold hasSpells at hollow
  rw [links, OrderedMap.gather, List.flatMap_eq_nil_iff]
  intro entry member
  have none := List.any_eq_false.1 hollow entry member
  have empty : entry.2 = [] := by simpa using none
  rw [empty, List.flatMap_nil]

end Tier

namespace Wiring

variable (wiring : Wiring)

def links : List Link := wiring.parents.gather fun parent n => (wiring.tier n).links parent

def numbers : List Nat := wiring.parents.gather fun _ n => [n]

def IsNumbered : Prop := ∀ n ∈ wiring.numbers, n < wiring.tiers.size

theorem isNumbered_empty : IsNumbered {} := by
  intro n member
  simp [numbers, OrderedMap.gather] at member

theorem IsNumbered.addTier {wiring : Wiring} (numbered : wiring.IsNumbered) (parent : String)
    (tier : Tier) : (wiring.addTier parent tier).IsNumbered := by
  intro n member
  have grown := wiring.parents.gather_alter_perm (fun _ n => [n]) parent [wiring.tiers.size]
  have size : (wiring.addTier parent tier).tiers.size = wiring.tiers.size + 1 :=
    Array.size_push tier
  rcases List.mem_append.1 (grown.mem_iff.1 member) with old | new
  · have below := numbered n old
    omega
  · obtain rfl : n = wiring.tiers.size := by simpa using new
    omega

theorem tier_addTier_new (parent : String) (tier : Tier) :
    (wiring.addTier parent tier).tier wiring.tiers.size = tier := by
  simp [addTier, wire, newTier, Wiring.tier]

/-- A new tier has a number that was not in use, so the old numbers keep their tiers. -/
theorem tier_addTier_old (parent : String) (tier : Tier) {n : Nat}
    (below : n < wiring.tiers.size) : (wiring.addTier parent tier).tier n = wiring.tier n := by
  simp [addTier, wire, newTier, Wiring.tier, Array.getElem?_push, Nat.ne_of_lt below]

def opened : List (String × Tier) :=
  wiring.view.flatMap fun entry => entry.2.map fun tier => (entry.1, tier)

theorem opened_eq_gather :
    wiring.opened = wiring.parents.gather fun parent n => [(parent, wiring.tier n)] := by
  simp only [opened, view, OrderedMap.gather, List.map_eq_flatMap, List.flatMap_assoc,
    List.flatMap_singleton]

theorem links_eq_opened :
    wiring.links = wiring.opened.flatMap fun tier => tier.2.links tier.1 := by
  simp only [opened_eq_gather, links, OrderedMap.gather, List.flatMap_assoc, List.flatMap_singleton]

theorem opened_addTier {wiring : Wiring} (numbered : wiring.IsNumbered) (parent : String)
    (tier : Tier) :
    (wiring.addTier parent tier).opened.Perm (wiring.opened ++ [(parent, tier)]) := by
  have grown := wiring.parents.gather_alter_perm
    (fun key n => [(key, (wiring.addTier parent tier).tier n)]) parent [wiring.tiers.size]
  have others : (wiring.parents.gather fun key n => [(key, (wiring.addTier parent tier).tier n)]) =
      wiring.opened := by
    rw [opened_eq_gather]
    apply OrderedMap.gather_congr
    intro key n member
    rw [wiring.tier_addTier_old parent tier (numbered n member)]
  rw [List.flatMap_singleton, tier_addTier_new, others] at grown
  rw [opened_eq_gather]
  exact grown

theorem opened_addTiers {wiring : Wiring} (numbered : wiring.IsNumbered)
    (tiers : List (String × Tier)) :
    let grown := tiers.foldl (fun wiring tier => wiring.addTier tier.1 tier.2) wiring
    grown.IsNumbered ∧ grown.opened.Perm (wiring.opened ++ tiers) := by
  induction tiers generalizing wiring with
  | nil => exact ⟨numbered, by simp⟩
  | cons tier tiers ih =>
    obtain ⟨numberedAll, added⟩ := ih (numbered.addTier tier.1 tier.2)
    refine ⟨numberedAll, added.trans ?_⟩
    rw [List.append_cons]
    exact (opened_addTier numbered tier.1 tier.2).append_right _

theorem links_addTiers {wiring : Wiring} (numbered : wiring.IsNumbered)
    (tiers : List (String × Tier)) :
    let grown := tiers.foldl (fun wiring tier => wiring.addTier tier.1 tier.2) wiring
    grown.IsNumbered ∧
      grown.links.Perm (wiring.links ++ tiers.flatMap fun tier => tier.2.links tier.1) := by
  obtain ⟨numberedAll, added⟩ := opened_addTiers numbered tiers
  refine ⟨numberedAll, ?_⟩
  rw [links_eq_opened, links_eq_opened, ← List.flatMap_append]
  exact added.flatMap_right _

theorem links_addTier {wiring : Wiring} (numbered : wiring.IsNumbered) (parent : String)
    (tier : Tier) :
    (wiring.addTier parent tier).links.Perm (wiring.links ++ tier.links parent) := by
  have one := (links_addTiers numbered [(parent, tier)]).2
  rwa [List.flatMap_singleton] at one

theorem IsNumbered.prune {wiring : Wiring} (numbered : wiring.IsNumbered) :
    wiring.prune.IsNumbered :=
  fun n member => numbered n (wiring.parents.gather_filter_subset member)

theorem links_prune : wiring.prune.links = wiring.links := by
  apply wiring.parents.gather_filter_nonempty
  intro parent n hollow
  exact Tier.links_eq_nil parent hollow

/-! ## The tiers of one parent -/

def tiersUnder (parent : String) : List Tier :=
  ((wiring.parents.get? parent).getD []).map wiring.tier

theorem mem_numbers {parent : String} {numbers : List Nat} {n : Nat}
    (listed : wiring.parents.get? parent = some numbers) (member : n ∈ numbers) :
    n ∈ wiring.numbers := by
  refine List.mem_flatMap.2 ⟨(parent, numbers), (OrderedMap.get?_eq_some_iff ..).1 listed, ?_⟩
  simpa using member

theorem tiersUnder_addTier {wiring : Wiring} (numbered : wiring.IsNumbered)
    (parent other : String) (tier : Tier) :
    (wiring.addTier parent tier).tiersUnder other =
      wiring.tiersUnder other ++ if parent = other then [tier] else [] := by
  have kept : ((wiring.parents.get? other).getD []).map (wiring.addTier parent tier).tier =
      wiring.tiersUnder other := by
    apply List.map_congr_left
    intro n member
    cases listed : wiring.parents.get? other with
    | none =>
      rw [listed] at member
      cases member
    | some numbers =>
      rw [listed] at member
      exact wiring.tier_addTier_old parent tier (numbered n (wiring.mem_numbers listed member))
  have parents : (wiring.addTier parent tier).parents.get? other =
      if parent = other then some ((wiring.parents.get? parent).getD [] ++ [wiring.tiers.size])
      else wiring.parents.get? other := OrderedMap.get?_alter ..
  rw [tiersUnder, parents]
  by_cases same : parent = other
  · subst same
    rw [if_pos rfl, if_pos rfl, Option.getD_some, List.map_append, kept, List.map_singleton,
      tier_addTier_new]
  · rw [if_neg same, if_neg same, kept, List.append_nil]

theorem tiersUnder_addTiers {wiring : Wiring} (numbered : wiring.IsNumbered) (parent : String)
    (tiers : List (String × Tier)) :
    (tiers.foldl (fun wiring tier => wiring.addTier tier.1 tier.2) wiring).tiersUnder parent =
      wiring.tiersUnder parent ++ OrderedMap.itemsAt parent tiers := by
  induction tiers generalizing wiring with
  | nil => exact (List.append_nil _).symm
  | cons tier tiers ih =>
    rw [List.foldl_cons, ih (numbered.addTier tier.1 tier.2), tiersUnder_addTier numbered,
      List.append_assoc, OrderedMap.itemsAt_cons]

def numbersUnder (parent : String) : List Nat := (wiring.parents.get? parent).getD []

theorem get?_parents_prune (parent : String) :
    wiring.prune.parents.get? parent =
      ((wiring.parents.get? parent).map
        (List.filter fun n => (wiring.tier n).hasSpells)).filter fun numbers =>
          !numbers.isEmpty := by
  rw [prune, OrderedMap.get?_filter_values, OrderedMap.get?_mapValues]

theorem numbersUnder_prune (parent : String) :
    wiring.prune.numbersUnder parent =
      (wiring.numbersUnder parent).filter fun n => (wiring.tier n).hasSpells := by
  rw [numbersUnder, get?_parents_prune, numbersUnder]
  cases wiring.parents.get? parent with
  | none => rfl
  | some numbers =>
    rw [Option.map_some, Option.getD_some]
    cases numbers.filter fun n => (wiring.tier n).hasSpells with
    | nil => rfl
    | cons n rest => rfl

theorem tiersUnder_prune (parent : String) :
    wiring.prune.tiersUnder parent = (wiring.tiersUnder parent).filter Tier.hasSpells := by
  have under (wiring : Wiring) :
      wiring.tiersUnder parent = (wiring.numbersUnder parent).map wiring.tier := rfl
  rw [under, under, numbersUnder_prune, List.filter_map]
  rfl

/-- Pruning leaves nothing that another pruning would take out. -/
theorem prune_prune : wiring.prune.prune = wiring.prune := by
  have again : ∀ entry ∈ wiring.prune.parents.entries,
      (entry.1, entry.2.filter fun n => (wiring.tier n).hasSpells) = entry := by
    intro entry member
    obtain ⟨whole, _, rfl⟩ := List.mem_map.1 (List.mem_of_mem_filter member)
    rw [List.filter_filter]
    simp only [Bool.and_self]
  have kept : ∀ entry ∈ wiring.prune.parents.entries, !entry.2.isEmpty :=
    fun entry member => (List.mem_filter.1 member).2
  have same : wiring.prune.prune.parents = wiring.prune.parents := by
    apply OrderedMap.ext
    change (wiring.prune.parents.entries.map fun entry =>
      (entry.1, entry.2.filter fun n => (wiring.tier n).hasSpells)).filter
        (fun entry => !entry.2.isEmpty) = wiring.prune.parents.entries
    rw [List.map_congr_left again, List.map_id', List.filter_eq_self.2 kept]
  exact congrArg (fun parents => ({ wiring with parents } : Wiring)) same

end Wiring

end FeatLoom
