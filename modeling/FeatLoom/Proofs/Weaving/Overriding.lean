import FeatLoom.Proofs.Lookup
import FeatLoom.Proofs.Weaving.Limit
import Mathlib.Algebra.Order.BigOperators.Group.List
import Mathlib.Algebra.Order.Group.Nat

/-!
# What overriding modules leave alone

What grows for a feat in a module is seen from that module, and it is the same under every allowance
that it does not exceed. So a run that does not end early grows in its lower modules what a run over
these modules alone grows there, whatever overrides them, and the run over the lower modules alone
does not end early either.
-/

namespace FeatLoom

namespace Weaving

variable {α β : Type}

def labelled (grow : α → Nat → Growth (Option β)) (item : α) (allowed : Nat) :
    Growth (Option (α × β)) :=
  ((grow item allowed).1.map (Prod.mk item), (grow item allowed).2)

/-- Growth that takes a weight from the allowance, and is the same whenever this much is allowed. -/
def IsSteady (weight : β → Nat) (grow : Nat → Growth β) : Prop :=
  ∀ before after grown, grow before = (grown, .ok after) →
    after + weight grown = before ∧
      ∀ allowed, weight grown ≤ allowed → grow allowed = (grown, .ok (allowed - weight grown))

def weightOf (weight : β → Nat) (grown : Option β) : Nat := grown.elim 0 weight

theorem sum_map_toList (weight : β → Nat) (grown : Option β) :
    (grown.toList.map weight).sum = weightOf weight grown := by
  cases grown <;> simp [weightOf]

section Each

variable {weight : β → Nat} {grow : α → Nat → Growth (Option β)} {items : List α}
  (steady : ∀ item, IsSteady (weightOf weight) (grow item))

include steady

/-- What grows for a list of items with steady growth is what grows for each of them alone. -/
theorem growEach_parts {before after total : Nat} {trees : List β} (enough : before ≤ total)
    (ended : growEach grow items before = (trees, .ok after)) :
    (∀ item ∈ items, (grow item total).2.isOk) ∧
      trees = items.flatMap (fun item => (grow item total).1.toList) ∧
      after + (trees.map weight).sum = before := by
  induction items generalizing before trees with
  | nil =>
    obtain ⟨rfl, same⟩ := Prod.mk.inj ended
    obtain rfl := Except.ok.inj same
    exact ⟨by simp, rfl, rfl⟩
  | cons item items ih =>
    unfold growEach at ended
    split at ended
    · cases ended
    · next grown left result =>
      obtain ⟨spent, others⟩ := steady item _ _ _ result
      have whole := others total (by omega)
      cases rest : growEach grow items left with
      | mk more outcome =>
        simp only [rest, Prod.mk.injEq] at ended
        obtain ⟨rfl, rfl⟩ := ended
        obtain ⟨all, same, spentMore⟩ := ih (by omega) rest
        refine ⟨?_, ?_, ?_⟩
        · rw [List.forall_mem_cons, whole]
          exact ⟨rfl, all⟩
        · rw [List.flatMap_cons, whole, same]
        · rw [List.map_append, List.sum_append, sum_map_toList]
          omega

/-- Where the growth of each item fits and all of them together fit, the growth of the list does
not end early. -/
theorem growEach_of_parts {allowed total : Nat}
    (each : ∀ item ∈ items, (grow item total).2.isOk)
    (fits : ((items.flatMap fun item => (grow item total).1.toList).map weight).sum ≤ allowed) :
    growEach grow items allowed =
      (items.flatMap fun item => (grow item total).1.toList,
        .ok (allowed -
          ((items.flatMap fun item => (grow item total).1.toList).map weight).sum)) := by
  induction items generalizing allowed with
  | nil => rfl
  | cons item items ih =>
    rw [List.forall_mem_cons] at each
    rw [List.flatMap_cons, List.map_append, List.sum_append, sum_map_toList] at fits ⊢
    cases result : grow item total with
    | mk grown outcome =>
      rw [result] at each fits
      dsimp only at fits ⊢
      cases outcome with
      | error fault => cases each.1
      | ok left =>
        have first := (steady item _ _ _ result).2 allowed (by omega)
        have room : ((items.flatMap fun item => (grow item total).1.toList).map weight).sum ≤
            allowed - weightOf weight grown := by
          omega
        have rest := ih each.2 room
        rw [growEach, first]
        simp only [rest, Nat.sub_sub]

theorem IsSteady.growEach (items : List α) :
    IsSteady (fun trees => (trees.map weight).sum) (growEach grow items) := by
  intro before after trees ended
  obtain ⟨each, rfl, spent⟩ := growEach_parts steady (Nat.le_refl before) ended
  exact ⟨spent, fun allowed fits => growEach_of_parts steady each fits⟩

theorem fst_growEach {total : Nat} (ended : (Weaving.growEach grow items total).2.isOk) :
    (Weaving.growEach grow items total).1 =
      items.flatMap fun item => (grow item total).1.toList := by
  cases all : Weaving.growEach grow items total with
  | mk trees outcome =>
    rw [all] at ended
    cases outcome with
    | error fault => cases ended
    | ok left => exact (growEach_parts steady (Nat.le_refl total) all).2.1

theorem isOk_growEach_iff {total : Nat} :
    (Weaving.growEach grow items total).2.isOk ↔
      (∀ item ∈ items, (grow item total).2.isOk) ∧
        ((items.flatMap fun item => (grow item total).1.toList).map weight).sum ≤ total := by
  constructor
  · intro ended
    cases all : Weaving.growEach grow items total with
    | mk trees outcome =>
      rw [all] at ended
      cases outcome with
      | error fault => cases ended
      | ok left =>
        obtain ⟨each, rfl, spent⟩ := growEach_parts steady (Nat.le_refl total) all
        exact ⟨each, by omega⟩
  · rintro ⟨each, fits⟩
    rw [growEach_of_parts steady each fits]
    rfl

end Each

theorem isSteady_nothing {weight : β → Nat} {grown : β} (weightless : weight grown = 0) :
    IsSteady weight fun allowed => (grown, .ok allowed) := by
  intro before after tree ended
  obtain ⟨rfl, same⟩ := Prod.mk.inj ended
  obtain rfl := Except.ok.inj same
  simp [weightless]

theorem IsSteady.map {weight : α → Nat} {other : β → Nat} {grow : Nat → Growth α} (f : α → β)
    (weighs : ∀ grown, other (f grown) = weight grown) (steady : IsSteady weight grow) :
    IsSteady other fun allowed => (f (grow allowed).1, (grow allowed).2) := by
  intro before after grown ended
  obtain ⟨rfl, same⟩ := Prod.mk.inj ended
  obtain ⟨spent, others⟩ := steady before after _ (Prod.ext rfl same)
  rw [weighs]
  exact ⟨spent, fun allowed fits => by simp only [others allowed fits]⟩

theorem IsSteady.labelled {weight : β → Nat} {grow : α → Nat → Growth (Option β)} {item : α}
    (steady : IsSteady (weightOf weight) (grow item)) :
    IsSteady (weightOf fun grown : α × β => weight grown.2) (labelled grow item) :=
  steady.map (Option.map (Prod.mk item)) fun grown => by cases grown <;> rfl

theorem growEach_nothing {grow : α → Nat → Growth (Option β)} {items : List α}
    (nothing : ∀ item ∈ items, ∀ allowed, grow item allowed = (none, .ok allowed))
    (allowed : Nat) : growEach grow items allowed = ([], .ok allowed) := by
  induction items with
  | nil => rfl
  | cons item items ih =>
    rw [List.forall_mem_cons] at nothing
    simp only [growEach, nothing.1, ih nothing.2, Option.toList_none, List.nil_append]

theorem length_terminals_record (feat : Feat) (tree : Woven) :
    (tree.record feat).terminals.length = tree.terminalCount := by
  rw [Record.length_terminals, Record.nodes, Woven.record, List.map_map, Woven.terminalCount]
  congr 1
  exact List.map_id _

/-- A tree that does not end early grows in the same way wherever its terminals are allowed. -/
theorem steady_grow (feat : Feat) (limit : Int) (depth : Nat) (site : Site) :
    IsSteady Woven.terminalCount (grow feat limit depth site) := by
  intro before after tree grown
  have spends := spends_grow feat limit depth site before
  rw [grown] at spends
  refine ⟨spends, fun allowed fits => ?_⟩
  have unlimited : IsUnlimited (grow feat limit depth site before).2 := by
    rw [grown]
    exact fun _ _ => nofun
  have curbed := curbed_grow limit limit depth site allowed before unlimited
  rw [grown] at curbed
  cases curbed with
  | within _ same outcome =>
    rw [length_terminals_record] at outcome
    exact Prod.ext same outcome
  | beyond crossed crossing fault cut =>
    have counted := (List.getElem?_eq_some_iff.1 crossing).1
    rw [length_terminals_record] at counted
    exact absurd counted (Nat.not_lt.2 fits)

end Weaving

/-! ## The roots of a run -/

namespace Loom

open Weaving

variable (loom : Loom)

def growIn (allowed : Nat) (id : Guid) (modules : List Module) :
    Growth (List (Vantage × Root)) :=
  growEach (labelled (loom.growRoot id)) (Vantage.all modules) allowed

def harvestFeat (id : Guid) (allowed : Nat) : Growth (Option (List (Vantage × Root))) :=
  let (roots, outcome) := loom.growIn allowed id loom.modules
  (some roots, outcome)

def harvest (allowed : Nat) : Growth (List (Guid × List (Vantage × Root))) :=
  growEach (labelled loom.harvestFeat) loom.featIds allowed

def rootsOf (fabric : Fabric) (id : Guid) : List (Vantage × Root) :=
  ((loom.harvest (loom.allowance fabric)).1.lookup id).getD []

def withRoots (fabric : Fabric) : Fabric :=
  (loom.featIds.map fun id => (loom.rootsOf fabric id).map Prod.snd).foldl
    (Fabric.addFeat loom.base) fabric

/-- To keep where a root has grown changes nothing in what grows. -/
theorem growAll_eq_harvest (allowed : Nat) :
    loom.growAll allowed =
      ((loom.harvest allowed).1.map fun feat => feat.2.map Prod.snd,
        (loom.harvest allowed).2) := by
  refine growEach_map (fun id left => ?_) loom.featIds allowed
  have roots (vantage : Vantage) (left : Nat) : loom.growRoot id vantage left =
      ((labelled (loom.growRoot id) vantage left).1.map Prod.snd,
        (labelled (loom.growRoot id) vantage left).2) := by
    rw [labelled, Option.map_map]
    exact Prod.ext Option.map_id'.symm rfl
  rw [growFeat, growEach_map roots]
  rfl

theorem fault_eq_none_iff (fabric : Fabric) :
    (loom.weave fabric).fault = none ↔ (loom.harvest (loom.allowance fabric)).2.isOk := by
  rw [weave, growAll_eq_harvest]
  cases (loom.harvest (loom.allowance fabric)).2 <;> simp [Except.isOk, Except.toBool]

theorem steady_growRoot (id : Guid) (vantage : Vantage) :
    IsSteady (weightOf Root.terminalCount) (loom.growRoot id vantage) := by
  cases defined : vantage.module.feat? id with
  | none =>
    have nothing : loom.growRoot id vantage = fun allowed => (none, .ok allowed) := by
      funext allowed
      rw [growRoot, defined]
    rw [nothing]
    exact isSteady_nothing rfl
  | some feat =>
    by_cases supported : feat.isSupported
    · have root : loom.growRoot id vantage = fun allowed =>
          let site := loom.rootSite vantage feat
          let grown := grow feat loom.limit site.state.picksLeft site allowed
          (some (.woven grown.1), grown.2) := by
        funext allowed
        simp only [growRoot, defined, supported, if_true]
      rw [root]
      exact (steady_grow feat loom.limit _ _).map (fun tree => some (Root.woven tree)) fun _ => rfl
    · have masked : loom.growRoot id vantage = fun allowed =>
          (some (.masked vantage.module.normalizedName), .ok allowed) := by
        funext allowed
        rw [growRoot, defined]
        exact if_neg supported
      rw [masked]
      exact isSteady_nothing rfl

def featWeight (roots : List (Vantage × Root)) : Nat :=
  (roots.map fun root => root.2.terminalCount).sum

theorem steady_harvestFeat (id : Guid) :
    IsSteady (weightOf featWeight) (loom.harvestFeat id) := by
  have steady := IsSteady.growEach (fun vantage => (loom.steady_growRoot id vantage).labelled)
    (Vantage.all loom.modules)
  exact steady.map some fun _ => rfl

theorem isOk_growIn_iff {total : Nat} {id : Guid} {modules : List Module} :
    (loom.growIn total id modules).2.isOk ↔
      (∀ vantage ∈ Vantage.all modules, (loom.growRoot id vantage total).2.isOk) ∧
        featWeight ((Vantage.all modules).flatMap fun vantage =>
          (labelled (loom.growRoot id) vantage total).1.toList) ≤ total :=
  isOk_growEach_iff fun vantage => (loom.steady_growRoot id vantage).labelled

theorem fst_growIn {total : Nat} {id : Guid} {modules : List Module}
    (ended : (loom.growIn total id modules).2.isOk) :
    (loom.growIn total id modules).1 = (Vantage.all modules).flatMap fun vantage =>
      (labelled (loom.growRoot id) vantage total).1.toList :=
  fst_growEach (fun vantage => (loom.steady_growRoot id vantage).labelled) ended

theorem flatMap_harvestFeat (total : Nat) :
    (loom.featIds.flatMap fun id => (labelled loom.harvestFeat id total).1.toList) =
      loom.featIds.map fun id => (id, (loom.growIn total id loom.modules).1) := by
  rw [List.map_eq_flatMap]
  rfl

theorem isOk_harvest_iff {total : Nat} :
    (loom.harvest total).2.isOk ↔
      (∀ id ∈ loom.featIds, (loom.growIn total id loom.modules).2.isOk) ∧
        (loom.featIds.map fun id => featWeight (loom.growIn total id loom.modules).1).sum ≤
          total := by
  have whole : (growEach (labelled loom.harvestFeat) loom.featIds total).2.isOk ↔ _ :=
    isOk_growEach_iff fun id => (loom.steady_harvestFeat id).labelled
  rw [flatMap_harvestFeat, List.map_map] at whole
  exact whole

theorem fst_harvest {total : Nat} (ended : (loom.harvest total).2.isOk) :
    (loom.harvest total).1 =
      loom.featIds.map fun id => (id, (loom.growIn total id loom.modules).1) := by
  rw [← flatMap_harvestFeat]
  exact fst_growEach (fun id => (loom.steady_harvestFeat id).labelled) ended

theorem growIn_of_not_mem {id : Guid} (unknown : id ∉ loom.featIds) (total : Nat) :
    loom.growIn total id loom.modules = ([], .ok total) := by
  apply growEach_nothing
  intro vantage member allowed
  have undefined : vantage.module.feat? id = none := by
    rw [Module.feat?, List.find?_eq_none]
    intro feat inModule
    rw [beq_iff_eq]
    rintro rfl
    refine unknown (List.mem_eraseDups.2 (List.mem_flatMap.2 ⟨vantage.module, ?_, ?_⟩))
    · exact (Vantage.stack_suffix member).subset List.mem_cons_self
    · exact List.mem_map_of_mem inModule
  rw [labelled, growRoot, undefined]
  rfl

variable {loom}

/-- In a run that does not end early each feat has grown for itself. -/
theorem isOk_growIn {total : Nat} (ended : (loom.harvest total).2.isOk) (id : Guid) :
    (loom.growIn total id loom.modules).2.isOk := by
  by_cases known : id ∈ loom.featIds
  · exact (loom.isOk_harvest_iff.1 ended).1 id known
  · rw [loom.growIn_of_not_mem known]
    rfl

theorem rootsOf_eq {fabric : Fabric} (ended : (loom.harvest (loom.allowance fabric)).2.isOk)
    (id : Guid) :
    loom.rootsOf fabric id = (loom.growIn (loom.allowance fabric) id loom.modules).1 := by
  rw [rootsOf, loom.fst_harvest ended]
  by_cases known : id ∈ loom.featIds
  · rw [List.lookup_graph _ known, Option.getD_some]
  · have absent : (loom.featIds.map fun id =>
        (id, (loom.growIn (loom.allowance fabric) id loom.modules).1)).lookup id = none := by
      rw [List.lookup_eq_none_iff, List.forall_mem_map]
      intro other member
      exact bne_iff_ne.2 fun same => known (same ▸ member)
    rw [absent, loom.growIn_of_not_mem known]
    rfl

/-- The roots of all feats are what a run adds. -/
theorem fabric_weave {fabric : Fabric} (ended : (loom.harvest (loom.allowance fabric)).2.isOk) :
    (loom.weave fabric).fabric = loom.withRoots fabric := by
  have same : (loom.featIds.map fun id => (loom.rootsOf fabric id).map Prod.snd) =
      loom.featIds.map fun id =>
        (loom.growIn (loom.allowance fabric) id loom.modules).1.map Prod.snd :=
    List.map_congr_left fun id _ => by rw [rootsOf_eq ended]
  rw [withRoots, same, weave, growAll_eq_harvest, fst_harvest loom ended, List.map_map]
  rfl

end Loom

/-! ## Below overriding modules -/

theorem Vantage.all_append (above below : List Module) : ∃ upper : List Vantage,
    all (above ++ below) = upper ++ all below ∧ ∀ vantage ∈ upper, vantage ∉ all below := by
  induction above with
  | nil => exact ⟨[], rfl, by simp⟩
  | cons m above ih =>
    obtain ⟨upper, split, apart⟩ := ih
    refine ⟨⟨m, above ++ below⟩ :: upper, by rw [List.cons_append, all, split]; rfl, ?_⟩
    rw [List.forall_mem_cons]
    refine ⟨fun member => ?_, apart⟩
    have shorter := (stack_suffix member).length_le
    simp only [stack, List.length_cons, List.length_append] at shorter
    omega

namespace Loom

open Weaving

variable {loom : Loom}

/-- What grows for a feat in the lower modules is what grows for it without the upper ones. -/
theorem growIn_below {total : Nat} {id : Guid} {above below : List Module}
    (ended : (loom.growIn total id (above ++ below)).2.isOk) :
    (loom.growIn total id below).2.isOk ∧ ∃ upper : List (Vantage × Root),
      (loom.growIn total id (above ++ below)).1 = upper ++ (loom.growIn total id below).1 ∧
        ∀ root ∈ upper, root.1 ∉ Vantage.all below := by
  obtain ⟨upper, split, apart⟩ := Vantage.all_append above below
  obtain ⟨each, fits⟩ := loom.isOk_growIn_iff.1 ended
  rw [split, List.flatMap_append, featWeight, List.map_append, List.sum_append] at fits
  rw [split, List.forall_mem_append] at each
  have lower : (loom.growIn total id below).2.isOk :=
    loom.isOk_growIn_iff.2 ⟨each.2, (Nat.le_add_left _ _).trans fits⟩
  refine ⟨lower, upper.flatMap fun vantage =>
    (labelled (loom.growRoot id) vantage total).1.toList, ?_, ?_⟩
  · rw [loom.fst_growIn ended, loom.fst_growIn lower, split, List.flatMap_append]
  · intro root member
    obtain ⟨vantage, inUpper, grown⟩ := List.mem_flatMap.1 member
    obtain ⟨_, _, rfl⟩ := Option.map_eq_some_iff.1 (Option.mem_toList.1 grown)
    exact apart vantage inUpper

theorem rootsOf_below {total : Nat} {id : Guid} {above below : List Module}
    (ended : (loom.growIn total id (above ++ below)).2.isOk) :
    (loom.growIn total id (above ++ below)).1.filter (fun root => root.1 ∈ Vantage.all below) =
      (loom.growIn total id below).1 := by
  obtain ⟨lower, upper, split, apart⟩ := growIn_below ended
  have own : ∀ root ∈ (loom.growIn total id below).1, root.1 ∈ Vantage.all below := by
    rw [loom.fst_growIn lower]
    intro root member
    obtain ⟨vantage, inBelow, grown⟩ := List.mem_flatMap.1 member
    obtain ⟨_, _, rfl⟩ := Option.map_eq_some_iff.1 (Option.mem_toList.1 grown)
    exact inBelow
  rw [split, List.filter_append, List.filter_eq_nil_iff.2 (by simpa using apart),
    List.filter_eq_self.2 (by simpa using own), List.nil_append]

theorem featWeight_below {total : Nat} {id : Guid} {above below : List Module}
    (ended : (loom.growIn total id (above ++ below)).2.isOk) :
    featWeight (loom.growIn total id below).1 ≤
      featWeight (loom.growIn total id (above ++ below)).1 := by
  obtain ⟨_, upper, split, _⟩ := growIn_below ended
  rw [split, featWeight, featWeight, List.map_append, List.sum_append]
  exact Nat.le_add_left _ _

/-- The loom with more modules that override those that it has. -/
def under (above : List Module) (loom : Loom) : Loom :=
  { loom with modules := above ++ loom.modules }

theorem featIds_subperm (above : List Module) :
    loom.featIds.Subperm (loom.under above).featIds := by
  apply List.subperm_of_subset (OrderedMap.nodup_eraseDups _)
  intro id member
  unfold featIds under at *
  rw [List.mem_eraseDups] at member ⊢
  rw [List.flatMap_append]
  exact List.mem_append_right _ member

/-- Where a loom under overriding modules does not end early, neither does the loom without them. -/
theorem isOk_harvest_below {total : Nat} {above : List Module}
    (ended : ((loom.under above).harvest total).2.isOk) : (loom.harvest total).2.isOk := by
  have each (id : Guid) : (loom.growIn total id (above ++ loom.modules)).2.isOk :=
    isOk_growIn ended id
  have fits : ((loom.under above).featIds.map fun id =>
      featWeight (loom.growIn total id (above ++ loom.modules)).1).sum ≤ total :=
    ((loom.under above).isOk_harvest_iff.1 ended).2
  refine loom.isOk_harvest_iff.2 ⟨fun id _ => (growIn_below (each id)).1, ?_⟩
  obtain ⟨ids, perm, sublist⟩ := loom.featIds_subperm above
  calc
    (loom.featIds.map fun id => featWeight (loom.growIn total id loom.modules).1).sum
      ≤ (loom.featIds.map fun id =>
          featWeight (loom.growIn total id (above ++ loom.modules)).1).sum :=
        List.sum_le_sum fun id _ => featWeight_below (each id)
    _ = (ids.map fun id => featWeight (loom.growIn total id (above ++ loom.modules)).1).sum :=
        (perm.map _).sum_eq.symm
    _ ≤ ((loom.under above).featIds.map fun id =>
          featWeight (loom.growIn total id (above ++ loom.modules)).1).sum :=
        (sublist.map _).sum_le_sum fun _ _ => Nat.zero_le _
    _ ≤ total := fits

/-- Overriding modules change nothing in what grows in the modules below them: where a run with them
does not end early, neither does the run without them, and for every feat both grow the same roots
in the same order in the lower modules. These roots are all that the runs add. -/
theorem weave_below (loom : Loom) (above : List Module) (fabric : Fabric)
    (ended : ((loom.under above).weave fabric).fault = none) :
    (loom.weave fabric).fault = none ∧
      (∀ id, ((loom.under above).rootsOf fabric id).filter
          (fun root => root.1 ∈ Vantage.all loom.modules) = loom.rootsOf fabric id) ∧
      ((loom.under above).weave fabric).fabric = (loom.under above).withRoots fabric ∧
      (loom.weave fabric).fabric = loom.withRoots fabric := by
  have upper : ((loom.under above).harvest (loom.allowance fabric)).2.isOk :=
    ((loom.under above).fault_eq_none_iff fabric).1 ended
  have lower : (loom.harvest (loom.allowance fabric)).2.isOk := isOk_harvest_below upper
  refine ⟨(loom.fault_eq_none_iff fabric).2 lower, fun id => ?_, fabric_weave upper,
    fabric_weave lower⟩
  rw [rootsOf_eq lower, rootsOf_eq upper]
  exact rootsOf_below (isOk_growIn upper id)

/-- A module overrides a feat and its list. Below it one module masks the feat and another one
grows it from its own list, as they do without the module on top. -/
theorem weave_below_masked :
    let list (names : List String) : CandidateLists :=
      .ofList [(.ability, .ofList [(Guid.nil, names)])]
    let gift : Feat :=
      { id := Guid.nil, name := "Gift", selectors := [.ability ⟨Guid.nil, 1, 1, "Score"⟩] }
    let upper : Module := { name := some "Upper", feats := [gift], lists := list ["Charisma"] }
    let masking : Feat := { gift with selectors := [.skill Guid.nil 1 none] }
    let middle : Module := { name := some "Middle", feats := [masking] }
    let lower : Module :=
      { name := some "Lower", feats := [gift], lists := list ["Strength", "Wisdom"] }
    let loom : Loom := { modules := [middle, lower] }
    ((loom.under [upper]).weave {}).fault = none ∧
      ((loom.under [upper]).weave {}).fabric.spellCount = 5 ∧
      (loom.weave {}).fault = none ∧ (loom.weave {}).fabric.spellCount = 3 ∧
      ((loom.under [upper]).rootsOf {} Guid.nil).length = 3 ∧
      (loom.rootsOf {} Guid.nil).length = 2 ∧
      ((loom.under [upper]).rootsOf {} Guid.nil).filter
        (fun root => root.1 ∈ Vantage.all loom.modules) = loom.rootsOf {} Guid.nil := by
  intro list gift upper masking middle lower loom
  have ended : ((loom.under [upper]).weave {}).fault = none := by decide
  obtain ⟨below, roots, _⟩ := weave_below loom [upper] {} ended
  exact ⟨ended, by decide, below, by decide, by decide, by decide, roots Guid.nil⟩

end Loom

end FeatLoom
