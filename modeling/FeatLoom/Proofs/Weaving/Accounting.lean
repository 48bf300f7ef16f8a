import FeatLoom.Proofs.Weaving.Anchored
import FeatLoom.Proofs.Weaving.KnownPicks
import FeatLoom.Proofs.Weaving.Record
import Mathlib.Algebra.Order.BigOperators.Group.List
import Mathlib.Algebra.Order.Group.Nat

/-!
# Terminals account for the output

Every branch of a grown tree ends in terminals, also when growth ends at the limit, and no path is
longer than the number of picks. So each terminal answers for the spells on the path to it, and
their number is bounded by that of the terminals. When a run does not end early, its leaves are
the boosts and the spells that apply one, and every other spell opens one tier, which lists nothing
exactly at the dead ends.
-/

namespace FeatLoom

namespace Woven

theorem spell_name_of_tier? {tree : Woven} {tier : String × Tier}
    (opens : tree.tier? = some tier) : tier.1 = tree.spell.entry.name := by
  cases tree with
  | leaf spell boost => cases opens
  | deadEnd spell warning =>
    obtain rfl := Option.some.inj opens
    rfl
  | branch spell children =>
    obtain rfl := Option.some.inj opens
    rfl

theorem isSome_tier? (tree : Woven) : tree.tier?.isSome = !tree.isLeaf := by
  cases tree <;> rfl

/-- A tree in which every branch goes on, and no path is longer than a number of picks. -/
inductive Ends : Nat → Woven → Prop
  | leaf (depth : Nat) (spell : ModuleSpell) (boost : Option StatEntry) :
      Ends depth (.leaf spell boost)
  | deadEnd (depth : Nat) (spell : ModuleSpell) (warning : Option String) :
      Ends depth (.deadEnd spell warning)
  | branch {depth : Nat} (spell : ModuleSpell) {children : List Woven} (goesOn : children ≠ [])
      (named : ∀ child ∈ children, child.spell.entry.name ≠ "")
      (ends : ∀ child ∈ children, Ends depth child) : Ends (depth + 1) (.branch spell children)

theorem length_flatMap_le_mul {α β : Type} {each : α → List β} {terminal : β → Bool}
    {most : Nat} {parts : List α}
    (bounded : ∀ part ∈ parts, (each part).length ≤ (each part).countP terminal * most) :
    (parts.flatMap each).length ≤ (parts.flatMap each).countP terminal * most := by
  induction parts with
  | nil => exact Nat.zero_le _
  | cons part parts ih =>
    rw [List.forall_mem_cons] at bounded
    rw [List.flatMap_cons, List.length_append, List.countP_append, Nat.add_mul]
    exact Nat.add_le_add bounded.1 (ih bounded.2)

namespace Ends

variable {tree : Woven} {depth : Nat}

theorem terminalCount_pos (ends : tree.Ends depth) : 0 < tree.terminalCount := by
  induction ends with
  | leaf depth spell boost => exact Nat.zero_lt_one
  | deadEnd depth spell warning => exact Nat.zero_lt_one
  | @branch depth spell children goesOn named ends ih =>
    obtain ⟨child, member⟩ := List.exists_mem_of_ne_nil children goesOn
    rw [terminalCount_branch]
    exact Nat.lt_of_lt_of_le (ih child member)
      (List.le_sum_of_mem (List.mem_map_of_mem member))

/-- A tree has no more nodes than the paths to its terminals. -/
theorem length_nodes_le (ends : tree.Ends depth) :
    tree.nodes.length ≤ tree.terminalCount * (1 + depth) := by
  induction ends with
  | leaf depth spell boost => simp [nodes, terminalCount, isTerminal, isLeaf]
  | deadEnd depth spell warning => simp [nodes, terminalCount, isTerminal, isDeadEnd]
  | @branch depth spell children goesOn named ends ih =>
    have positive := (Ends.branch spell goesOn named ends).terminalCount_pos
    have below : (children.flatMap nodes).length ≤
        (Woven.branch spell children).terminalCount * (1 + depth) := by
      rw [terminalCount, nodes, nodesOf_eq_flatMap, List.countP_cons_of_neg Bool.false_ne_true]
      exact length_flatMap_le_mul ih
    rw [nodes, nodesOf_eq_flatMap, List.length_cons]
    calc
      (children.flatMap nodes).length + 1
        ≤ (Woven.branch spell children).terminalCount * (1 + depth) +
            (Woven.branch spell children).terminalCount := Nat.add_le_add below positive
      _ = (Woven.branch spell children).terminalCount * (1 + (depth + 1)) := by
        rw [← Nat.add_assoc, Nat.mul_succ]

theorem hasSpells_tier (ends : tree.Ends depth) : ∀ node ∈ tree.nodes, ∀ tier ∈ node.tier?,
    tier.2.hasSpells = !node.isDeadEnd := by
  induction ends with
  | leaf depth spell boost =>
    intro node member tier opens
    obtain rfl := List.mem_singleton.1 member
    cases opens
  | deadEnd depth spell warning =>
    intro node member tier opens
    obtain rfl := List.mem_singleton.1 member
    obtain rfl := Option.some.inj opens
    rfl
  | @branch depth spell children goesOn named ends ih =>
    intro node member tier opens
    rw [nodes, nodesOf_eq_flatMap, List.mem_cons] at member
    rcases member with rfl | below
    · obtain rfl := Option.some.inj opens
      have namedSpells : ∀ spell ∈ children.map Woven.spell, spell.entry.name ≠ "" := by
        simpa using named
      have listed := links_tierOf_of_named spell.entry.name namedSpells
      cases spells : (tierOf (children.map Woven.spell)).hasSpells with
      | true => rfl
      | false =>
        -- A tier without spells has no links, but each child has one.
        rw [Tier.links_eq_nil _ spells] at listed
        exact absurd (List.map_eq_nil_iff.1 (List.map_eq_nil_iff.1 listed.nil_eq.symm)) goesOn
    · obtain ⟨child, inChildren, inChild⟩ := List.mem_flatMap.1 below
      exact ih child inChildren node inChild tier opens

end Ends

end Woven

/-! ## Growth -/

namespace Weaving

/-- Growth that does not end early, or ends at the limit. -/
def IsCounted : Except WeaveError Nat → Prop
  | .ok _ => True
  | .error fault => ∃ limit feat, fault = .limitExceeded limit feat

theorem isCounted_ok (left : Nat) : IsCounted (.ok left) := trivial

theorem growEach_ne_nil {α β : Type} {grow : α → Nat → Growth (Option β)} {item : α}
    {items : List α} {allowed : Nat}
    (first : IsCounted (grow item allowed).2 → (grow item allowed).1 ≠ none)
    (counted : IsCounted (growEach grow (item :: items) allowed).2) :
    (growEach grow (item :: items) allowed).1 ≠ [] := by
  unfold growEach at counted ⊢
  split at counted
  · next grown fault result =>
    rw [result] at first
    obtain ⟨tree, rfl⟩ := Option.ne_none_iff_exists'.1 (first counted)
    exact List.cons_ne_nil tree []
  · next grown left result =>
    rw [result] at first
    obtain ⟨tree, rfl⟩ := Option.ne_none_iff_exists'.1 (first (isCounted_ok left))
    exact List.cons_ne_nil tree _

/-- What grows for a number of picks ends after so many, unless growth ends for another reason than
the limit. -/
theorem ends_grow (feat : Feat) (limit : Int) (depth : Nat) (site : Site) (allowed : Nat)
    (counted : IsCounted (grow feat limit depth site allowed).2) :
    (grow feat limit depth site allowed).1.Ends depth := by
  induction depth generalizing site allowed with
  | zero =>
    rw [grow, growLeaf]
    split
    · exact .leaf 0 _ _
    · exact .leaf 0 _ _
  | succ depth ih =>
    cases chosen : site.choice with
    | error fault =>
      simp only [grow, chosen] at counted
      obtain ⟨limit, name, exceeded⟩ := counted
      exact absurd exceeded (choice_ne_limitExceeded chosen limit name)
    | ok choice =>
      cases choice with
      | missing kind list =>
        rw [grow, chosen]
        exact .deadEnd _ _ _
      | picks supplier kind options =>
        cases options with
        | nil =>
          rw [grow, chosen]
          exact .deadEnd _ _ _
        | cons option options =>
          have pickable := List.cons_ne_nil option options
          rw [grow_of_picks chosen pickable] at counted ⊢
          refine .branch _ (growEach_ne_nil (fun going => ?_) counted) ?_ ?_
          · rcases growPick_cases site supplier kind option with
              ⟨fault, other, ended⟩ | ⟨next, -, grows⟩
            · rw [ended] at going
              obtain ⟨bound, name, exceeded⟩ := going
              exact absurd exceeded (other bound name)
            · rw [grows]
              exact Option.some_ne_none _
          · apply forall_mem_growEach
            intro pick _ left tree grown
            obtain ⟨next, _, rfl⟩ := growPick_tree grown
            rw [name_spell_grow]
            exact next.spellName_ne_empty
          · refine forall_mem_growEach_of_outcome IsCounted isCounted_ok ?_ counted
            intro pick _ left going tree grown
            rcases growPick_cases site supplier kind pick with
              ⟨fault, -, ended⟩ | ⟨next, -, grows⟩
            · rw [ended] at grown
              cases grown
            · rw [grows] at going grown
              cases grown
              exact ih next left going

def NamesLimit (limit : Int) (outcome : Except WeaveError Nat) : Prop :=
  ∀ named feat, outcome = .error (.limitExceeded named feat) → named = limit

theorem namesLimit_ok (limit : Int) (left : Nat) : NamesLimit limit (.ok left) :=
  fun _ _ => nofun

theorem namesLimit_count (feat : Feat) (limit : Int) (allowed : Nat) :
    NamesLimit limit (count feat limit allowed) := by
  intro named name exceeded
  cases allowed with
  | zero =>
    injection exceeded with same
    injection same with same
    exact same.symm
  | succ left => cases exceeded

theorem namesLimit_grow (feat : Feat) (limit : Int) (depth : Nat) (site : Site) (allowed : Nat) :
    NamesLimit limit (grow feat limit depth site allowed).2 := by
  induction depth generalizing site allowed with
  | zero =>
    have counts := namesLimit_count feat limit allowed
    rw [grow, growLeaf]
    split
    · next fault result => rwa [result] at counts
    · exact namesLimit_ok limit _
  | succ depth ih =>
    cases chosen : site.choice with
    | error fault =>
      simp only [grow, chosen]
      intro named name exceeded
      exact absurd (Except.error.inj exceeded) (choice_ne_limitExceeded chosen named name)
    | ok choice =>
      cases choice with
      | missing kind list =>
        simp only [grow, chosen]
        exact namesLimit_count feat limit allowed
      | picks supplier kind options =>
        by_cases pickable : options = []
        · subst pickable
          simp only [grow, chosen]
          exact namesLimit_count feat limit allowed
        · rw [grow_of_picks chosen pickable]
          refine outcome_growEach (namesLimit_ok limit) (fun pick left => ?_) options allowed
          rcases growPick_cases site supplier kind pick with
            ⟨fault, other, ended⟩ | ⟨next, -, grows⟩
          · rw [ended]
            intro named name exceeded
            exact absurd (Except.error.inj exceeded) (other named name)
          · rw [grows]
            exact ih next left

end Weaving

/-! ## Runs -/

theorem Woven.mem_nodes_self (tree : Woven) : tree ∈ tree.nodes := by
  cases tree <;> simp [nodes]

namespace Loom

open Weaving

variable (loom : Loom)

def grownTrees : List (Feat × Woven) :=
  (loom.growLabelledAll (loom.allowance {})).1.flatMap fun roots =>
    roots.filterMap fun labelled => labelled.2.tree?.map fun tree => (labelled.1, tree)

theorem record_eq_grownTrees :
    loom.record = loom.grownTrees.flatMap fun grown => Woven.record grown.1 grown.2 := by
  rw [record, grownTrees, List.flatMap_assoc]
  apply List.flatMap_congr
  intro roots _
  rw [List.filterMap_eq_flatMap_toList, List.flatMap_assoc]
  apply List.flatMap_congr
  rintro ⟨feat, root⟩ _
  cases root <;> rfl

def wovenFeats : List Feat := loom.record.map Prod.fst

def mostPicks : Nat := (loom.wovenFeats.map Feat.pickCount).max?.getD 0

variable {loom}

theorem picksLeft_rootSite {feat : Feat} (supported : feat.isSupported) (vantage : Vantage) :
    (loom.rootSite vantage feat).state.picksLeft = feat.pickCount := by
  obtain ⟨items, awaits⟩ := loom.awaits_rootSite supported vantage
  rw [awaits.picksLeft_eq, Expansion.length_turns]
  rfl

theorem ends_growLabelledRoot (id : Guid) (vantage : Vantage) (allowed : Nat)
    (counted : IsCounted (loom.growLabelledRoot id vantage allowed).2) :
    ∀ labelled ∈ (loom.growLabelledRoot id vantage allowed).1, ∀ tree ∈ labelled.2.tree?,
      tree.Ends labelled.1.pickCount := by
  intro labelled grown tree inRoot
  cases defined : vantage.module.feat? id with
  | none => simp [growLabelledRoot, growRoot, defined] at grown
  | some feat =>
    by_cases supported : feat.isSupported
    · simp only [growLabelledRoot, growRoot, defined, supported, if_true] at counted grown
      obtain rfl := Option.some.inj grown
      obtain rfl := Option.some.inj inRoot
      rw [picksLeft_rootSite supported] at counted ⊢
      exact ends_grow feat loom.limit _ _ allowed counted
    · simp only [growLabelledRoot, growRoot, defined, supported] at grown
      obtain rfl := Option.some.inj grown
      cases inRoot

theorem ends_grownTrees (counted : IsCounted (loom.growLabelledAll (loom.allowance {})).2) :
    ∀ grown ∈ loom.grownTrees, grown.2.Ends grown.1.pickCount := by
  have roots : ∀ roots ∈ (loom.growLabelledAll (loom.allowance {})).1, ∀ labelled ∈ roots,
      ∀ tree ∈ labelled.2.tree?, tree.Ends labelled.1.pickCount := by
    refine forall_mem_growEach_of_outcome IsCounted isCounted_ok ?_ counted
    intro id _ allowed going roots grown
    obtain rfl := Option.some.inj grown
    refine forall_mem_growEach_of_outcome IsCounted isCounted_ok ?_ going
    intro vantage _ left
    exact ends_growLabelledRoot id vantage left
  intro grown member
  obtain ⟨feat, inFeats, inFeat⟩ := List.mem_flatMap.1 member
  obtain ⟨labelled, inRoots, same⟩ := List.mem_filterMap.1 inFeat
  obtain ⟨tree, inRoot, rfl⟩ := Option.map_eq_some_iff.1 same
  exact roots feat inFeats labelled inRoots tree inRoot

theorem pickCount_le_mostPicks {grown : Feat × Woven} (member : grown ∈ loom.grownTrees) :
    grown.1.pickCount ≤ loom.mostPicks := by
  have recorded : (grown.1, grown.2) ∈ loom.record := by
    rw [record_eq_grownTrees]
    exact List.mem_flatMap.2 ⟨grown, member, List.mem_map_of_mem grown.2.mem_nodes_self⟩
  have woven : grown.1 ∈ loom.wovenFeats := List.mem_map_of_mem recorded
  exact List.le_max?_getD_of_mem (List.mem_map_of_mem woven)

/-- Spells are charged to the terminals, each of which answers for no more spells than picks lead
to it. -/
theorem length_record_le (counted : IsCounted (loom.growLabelledAll (loom.allowance {})).2) :
    loom.record.length ≤ loom.record.terminals.length * (1 + loom.mostPicks) := by
  rw [Record.terminals, List.length_map, ← List.countP_eq_length_filter, record_eq_grownTrees]
  apply Woven.length_flatMap_le_mul
  intro grown member
  have ends := (ends_grownTrees counted grown member).length_nodes_le
  have most := pickCount_le_mostPicks member
  rw [Woven.record, List.length_map, List.countP_map]
  calc
    grown.2.nodes.length
      ≤ grown.2.terminalCount * (1 + grown.1.pickCount) := ends
    _ ≤ grown.2.terminalCount * (1 + loom.mostPicks) :=
      Nat.mul_le_mul_left _ (Nat.add_le_add_left most 1)

theorem hasSpells_tier_record
    (counted : IsCounted (loom.growLabelledAll (loom.allowance {})).2) :
    ∀ node ∈ loom.record.nodes, ∀ tier ∈ node.tier?,
      tier.2.hasSpells = !node.isDeadEnd := by
  intro node member
  rw [Record.nodes, record_eq_grownTrees] at member
  obtain ⟨entry, inRecord, rfl⟩ := List.mem_map.1 member
  obtain ⟨grown, inTrees, inTree⟩ := List.mem_flatMap.1 inRecord
  obtain ⟨node, inNodes, rfl⟩ := List.mem_map.1 inTree
  exact (ends_grownTrees counted grown inTrees).hasSpells_tier node inNodes

theorem exists_isNodeAt (ended : (loom.weave {}).fault = none) : ∀ node ∈ loom.record.nodes,
    ∃ feat spot path, IsNodeAt feat spot path node := by
  obtain ⟨feats, left, grown, _⟩ := weave_ok ended
  obtain ⟨nodes, same, trees⟩ := growAll_ok grown
  have all : loom.record.nodes = nodes.flatten := by rw [nodes_record, grown, same]
  rw [all]
  intro node member
  obtain ⟨tree, inTrees, inTree⟩ := List.mem_flatten.1 member
  obtain ⟨plot, isGrown⟩ := exists_of_mem trees.flip inTrees
  change loom.IsGrown plot tree at isGrown
  unfold IsGrown at isGrown
  split at isGrown
  · rw [isGrown] at inTree
    cases inTree
  · next feat woven =>
    obtain ⟨paths, _, _, each⟩ := isGrown
    obtain ⟨path, isNode⟩ := exists_of_mem each.flip inTree
    exact ⟨feat, _, path, isNode⟩

theorem limit_eq_of_fault {limit : Int} {feat : String}
    (ended : (loom.weave {}).fault = some (.limitExceeded limit feat)) : limit = loom.limit := by
  have root (id : Guid) (vantage : Vantage) (allowed : Nat) :
      NamesLimit loom.limit (loom.growRoot id vantage allowed).2 := by
    unfold growRoot
    split
    · exact namesLimit_ok _ allowed
    · next feat defined =>
      split
      · exact namesLimit_grow feat loom.limit _ _ allowed
      · exact namesLimit_ok _ allowed
  have all : NamesLimit loom.limit (loom.growAll (loom.allowance {})).2 := by
    refine outcome_growEach (namesLimit_ok _) (fun id allowed => ?_) _ _
    exact outcome_growEach (namesLimit_ok _) (root id) _ _
  unfold weave at ended
  cases outcome : (loom.growAll (loom.allowance {})).2 with
  | ok left => simp [outcome] at ended
  | error fault =>
    simp only [outcome, Option.some.injEq] at ended
    subst ended
    exact all limit feat outcome

end Loom

/-! ## The fabric of a run -/

namespace Fabric

def entries (fabric : Fabric) : List StatEntry := fabric.spells.gather fun _ entry => [entry]

def tiersBelow (base : String) (fabric : Fabric) : List (String × Tier) :=
  fabric.wiring.opened.filter fun tier => tier.1 ≠ base

theorem wiring_foldl_addFeat (base : String) (fabric : Fabric) (feats : List (List Root)) :
    (feats.foldl (addFeat base) fabric).wiring =
      (feats.flatMap fun roots => (base, Root.tierOf roots) ::
        (Root.nodesOf roots).filterMap Woven.tier?).foldl
          (fun wiring tier => wiring.addTier tier.1 tier.2) fabric.wiring := by
  induction feats generalizing fabric with
  | nil => rfl
  | cons roots feats ih =>
    rw [List.foldl_cons, ih, List.flatMap_cons, List.foldl_append]
    rfl

/-- Below the base spell are the tiers that nodes open. -/
theorem tiersBelow_foldl_addFeat {base : String} {feats : List (List Root)}
    (apart : ∀ node ∈ feats.flatMap Root.nodesOf, node.spell.entry.name ≠ base) :
    (tiersBelow base (feats.foldl (addFeat base) {})).Perm
      ((feats.flatMap Root.nodesOf).filterMap Woven.tier?) := by
  have opened := (Wiring.opened_addTiers Wiring.isNumbered_empty
    (feats.flatMap fun roots => (base, Root.tierOf roots) ::
      (Root.nodesOf roots).filterMap Woven.tier?)).2
  rw [tiersBelow, wiring_foldl_addFeat]
  refine (opened.filter _).trans (.of_eq ?_)
  have none : Wiring.opened {} = [] := rfl
  rw [none, List.nil_append]
  clear opened
  induction feats with
  | nil => rfl
  | cons roots feats ih =>
    rw [List.flatMap_cons, List.forall_mem_append] at apart
    have own : ∀ tier ∈ (Root.nodesOf roots).filterMap Woven.tier?, tier.1 ≠ base := by
      intro tier member
      obtain ⟨node, inRoots, opens⟩ := List.mem_filterMap.1 member
      rw [Woven.spell_name_of_tier? opens]
      exact apart.1 node inRoots
    rw [List.flatMap_cons, List.flatMap_cons, List.filterMap_append, List.filter_append,
      ih apart.2, List.filter_cons_of_neg (by simp), List.filter_eq_self.2 (by simpa using own)]

end Fabric

namespace Loom

open Weaving

variable {loom : Loom}

theorem entries_weave_perm :
    (loom.weave {}).fabric.entries.Perm (loom.record.nodes.map fun node => node.spell.entry) := by
  rw [Fabric.entries, spells_weave]
  have gathered := OrderedMap.empty.gather_appendAll_perm (fun _ entry => [entry])
    (loom.record.nodes.map fun node => (node.spell.module, node.spell.entry))
  rw [List.flatMap_map, ← List.map_eq_flatMap] at gathered
  exact gathered

theorem spellCount_weave : (loom.weave {}).fabric.spellCount = loom.record.length := by
  rw [Fabric.spellCount, OrderedMap.itemCount_eq]
  exact entries_weave_perm.length_eq.trans (by simp [Record.nodes])

theorem boostCount_weave : (loom.weave {}).fabric.boostCount = loom.record.boosts.length := by
  rw [Fabric.boostCount, OrderedMap.itemCount_eq, boosts_weave]
  refine (OrderedMap.empty.gather_appendAll_perm (fun _ entry => [entry]) _).length_eq.trans ?_
  rw [← List.map_eq_flatMap]
  exact List.length_map _

theorem leaves_weave : (loom.weave {}).fabric.leaves = loom.record.nodes.countP Woven.isLeaf := by
  rw [nodes_record]
  exact (Fabric.leaves_foldl_addFeat loom.base {} _).trans (Nat.zero_add _)

theorem deadEnds_weave :
    (loom.weave {}).fabric.deadEnds = loom.record.nodes.countP Woven.isDeadEnd := by
  rw [nodes_record]
  exact (Fabric.deadEnds_foldl_addFeat loom.base {} _).trans (Nat.zero_add _)

theorem tiersBelow_weave
    (apart : ∀ entry ∈ (loom.weave {}).fabric.entries, entry.name ≠ loom.base) :
    ((loom.weave {}).fabric.tiersBelow loom.base).Perm
      (loom.record.nodes.filterMap Woven.tier?) := by
  rw [nodes_record]
  apply Fabric.tiersBelow_foldl_addFeat
  intro node grown
  have member : node ∈ loom.record.nodes := by rwa [nodes_record]
  exact apart _ (entries_weave_perm.mem_iff.2 (List.mem_map_of_mem member))

end Loom

/-! ## The account -/

def StatEntry.appliesBoost (entry : StatEntry) : Bool :=
  !(entry.valuesOf "SpellProperties").isEmpty

/-- How the counts of a fabric go with its entries and with its tiers. -/
structure Fabric.IsAccounted (base : String) (mostPicks : Nat) (fabric : Fabric) : Prop where
  boosts : fabric.leaves = fabric.boostCount
  applying : fabric.leaves = fabric.entries.countP StatEntry.appliesBoost
  others : ∀ entry ∈ fabric.entries, ¬ entry.appliesBoost →
    entry.valuesOf "SpellFlags" = ["IsLinkedSpellContainer"]
  containers : (fabric.tiersBelow base).length =
    fabric.entries.countP fun entry => !entry.appliesBoost
  hollow : fabric.deadEnds = (fabric.tiersBelow base).countP fun tier => !tier.2.hasSpells
  spells : fabric.spellCount ≤ fabric.terminals * (1 + mostPicks)

namespace Loom

open Weaving

variable {loom : Loom}

theorem appliesBoost_of_isNodeAt {feat : Feat} {spot : Spot} {path : List Nat} {node : Woven}
    (isNode : IsNodeAt feat spot path node) : node.spell.entry.appliesBoost = node.isLeaf := by
  rw [StatEntry.appliesBoost, isNode.properties]
  cases node.isLeaf <;> rfl

theorem isCounted_of_fault (counted : ∀ fault ∈ (loom.weave {}).fault,
    ∃ limit feat, fault = .limitExceeded limit feat) :
    IsCounted (loom.growLabelledAll (loom.allowance {})).2 := by
  unfold weave at counted
  rw [growAll_eq_labelled] at counted
  cases outcome : (loom.growLabelledAll (loom.allowance {})).2 with
  | ok left => exact isCounted_ok left
  | error fault =>
    rw [outcome] at counted
    exact counted fault rfl

theorem isAccounted_weave
    (apart : ∀ entry ∈ (loom.weave {}).fabric.entries, entry.name ≠ loom.base)
    (ended : (loom.weave {}).fault = none) :
    (loom.weave {}).fabric.IsAccounted loom.base loom.mostPicks := by
  have counted : IsCounted (loom.growLabelledAll (loom.allowance {})).2 :=
    isCounted_of_fault (by simp [ended])
  have tiers := tiersBelow_weave apart
  have nodes := exists_isNodeAt ended
  have applies : ∀ node ∈ loom.record.nodes, node.spell.entry.appliesBoost = node.isLeaf := by
    intro node member
    obtain ⟨feat, spot, path, isNode⟩ := nodes node member
    exact appliesBoost_of_isNodeAt isNode
  refine ⟨?_, ?_, ?_, ?_, ?_, ?_⟩
  · rw [leaves_weave, boostCount_weave, Record.boosts, List.length_filterMap_eq_countP]
    apply List.countP_congr
    intro node member
    obtain ⟨feat, spot, path, isNode⟩ := nodes node member
    exact isNode.isSome_boost.symm
  · rw [leaves_weave, entries_weave_perm.countP_eq, List.countP_map]
    apply List.countP_congr
    intro node member
    rw [Function.comp_apply, applies node member]
  · intro entry member idle
    obtain ⟨node, inRecord, rfl⟩ := List.mem_map.1 (entries_weave_perm.mem_iff.1 member)
    obtain ⟨feat, spot, path, isNode⟩ := nodes node inRecord
    rw [applies node inRecord] at idle
    rw [isNode.flags, if_neg idle]
  · rw [tiers.length_eq, entries_weave_perm.countP_eq, List.countP_map,
      List.length_filterMap_eq_countP]
    apply List.countP_congr
    intro node member
    rw [Function.comp_apply, applies node member, Woven.isSome_tier?]
  · rw [deadEnds_weave, tiers.countP_eq, List.countP_filterMap]
    apply List.countP_congr
    intro node member
    have hollow := hasSpells_tier_record counted node member
    cases opens : node.tier? with
    | none =>
      have leaf := node.isSome_tier?
      cases node with
      | leaf spell boost => simp [Woven.isDeadEnd]
      | _ => simp [opens, Woven.isLeaf] at leaf
    | some tier => simp [hollow tier opens]
  · rw [spellCount_weave, terminals_weave]
    exact length_record_le counted

/-- In a run that does not end early the leaves are the boosts and the spells that apply one, every
other spell opens a tier of its own, and the dead ends are the tiers without spells. At the end of
such a run, and also where a run ends at its limit, the terminals bound the number of spells. -/
theorem weave_accounts (loom : Loom)
    (apart : ∀ entry ∈ (loom.weave {}).fabric.entries, entry.name ≠ loom.base) :
    ((loom.weave {}).fault = none →
        (loom.weave {}).fabric.IsAccounted loom.base loom.mostPicks) ∧
      ∀ limit feat, (loom.weave {}).fault = some (.limitExceeded limit feat) → 0 ≤ limit →
        ((loom.weave {}).fabric.spellCount : Int) ≤ (limit + 1) * (1 + loom.mostPicks) := by
  refine ⟨isAccounted_weave apart, fun limit feat ended nonneg => ?_⟩
  obtain rfl := limit_eq_of_fault ended
  have counted : IsCounted (loom.growLabelledAll (loom.allowance {})).2 :=
    isCounted_of_fault (by simp [ended])
  have charged := length_record_le counted
  have terminals := loom.terminals_weave_le
  rw [← terminals_weave, ← spellCount_weave] at charged
  have bound : (loom.weave {}).fabric.spellCount ≤
      (loom.limit.toNat + 1) * (1 + loom.mostPicks) :=
    charged.trans (Nat.mul_le_mul_right _ terminals)
  have same : ((loom.limit.toNat + 1 : Nat) : Int) = loom.limit + 1 := by omega
  rw [← same]
  exact_mod_cast bound

/-- Two picks that can be made in two ways, and a choice from a list that is not there: of six
spells two apply boosts, and of four tiers one is hollow. A limit of one lets five spells grow. -/
theorem weave_accounts_gift :
    let list : OrderedMap Guid (List String) := .ofList [(Guid.nil, ["Strength", "Wisdom"])]
    let choice (id : Guid) (count : Nat) : Selector := .ability ⟨id, count, 1, "Score"⟩
    let feats : List Feat :=
      [{ id := Guid.nil, name := "Gift", selectors := [choice Guid.nil 2] },
        { id := Guid.ofNat 1, name := "Boon", selectors := [choice (Guid.ofNat 1) 1] }]
    let main : Module := { name := some "Main", feats, lists := .ofList [(.ability, list)] }
    let loom : Loom := { modules := [main] }
    let limited : Loom := { loom with limit := 1 }
    (∀ entry ∈ (loom.weave {}).fabric.entries, entry.name ≠ loom.base) ∧
      (loom.weave {}).fault = none ∧ (loom.weave {}).fabric.spellCount = 6 ∧
      loom.mostPicks = 2 ∧ (loom.weave {}).fabric.IsAccounted loom.base 2 ∧
      (∀ entry ∈ (limited.weave {}).fabric.entries, entry.name ≠ limited.base) ∧
      (limited.weave {}).fault = some (.limitExceeded 1 "Gift") ∧
      ((limited.weave {}).fabric.spellCount : Int) ≤ (1 + 1) * (1 + 2) := by
  intro list choice feats main loom limited
  have apart : ∀ entry ∈ (loom.weave {}).fabric.entries, entry.name ≠ loom.base := by decide
  have ended : (loom.weave {}).fault = none := by decide
  have picks : loom.mostPicks = 2 := by decide
  have apartLimited :
      ∀ entry ∈ (limited.weave {}).fabric.entries, entry.name ≠ limited.base := by
    decide
  have cut : (limited.weave {}).fault = some (.limitExceeded 1 "Gift") := by decide
  have picksLimited : limited.mostPicks = 2 := by decide
  have account := (weave_accounts loom apart).1 ended
  have bound := (weave_accounts limited apartLimited).2 1 "Gift" cut (by decide)
  rw [picks] at account
  rw [picksLimited] at bound
  exact ⟨apart, ended, by decide, picks, account, apartLimited, cut, bound⟩

end Loom

end FeatLoom
