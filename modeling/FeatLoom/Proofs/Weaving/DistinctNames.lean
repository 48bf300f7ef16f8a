import FeatLoom.Proofs.Lookup
import FeatLoom.Proofs.OrderedMap.Gather
import FeatLoom.Proofs.Weaving.KnownPicks
import FeatLoom.Proofs.Weaving.Refinement

/-!
# Names that never collide

The names of spells and boosts are joined from parts that may hold the joining mark themselves. They
can be told apart all the same. Below one root the picks are known, and known picks can be read back
from the text that they add; two roots of which none begins with the other and a mark have no common
continuation.
-/

namespace FeatLoom

namespace Module

def IsDuplicateFree (m : Module) : Prop :=
  ∀ lists ∈ m.lists.values, ∀ candidates ∈ lists.values, candidates.Nodup

instance (m : Module) : Decidable m.IsDuplicateFree :=
  inferInstanceAs (Decidable (∀ lists ∈ m.lists.values, ∀ candidates ∈ lists.values,
    candidates.Nodup))

theorem IsDuplicateFree.nodup {m : Module} (free : m.IsDuplicateFree) {kind : ListKind}
    {list : Guid} {candidates : List String}
    (found : m.candidates? kind list = some candidates) : candidates.Nodup := by
  obtain ⟨lists, inModule, inLists⟩ := Option.bind_eq_some_iff.1 found
  rw [OrderedMap.get?_eq_some_iff] at inModule inLists
  exact free lists (List.mem_map_of_mem inModule) candidates (List.mem_map_of_mem inLists)

end Module

theorem Slot.nodup_pathsFrom (earlier : List String) (slots : List Slot) :
    (pathsFrom earlier slots).Nodup := by
  refine (pathsFrom_pairwise earlier slots).imp ?_
  rintro path _ before rfl
  exact List.lt_irrefl path before

namespace Weaving

theorem Stage.nodup_along {vantage : Vantage} (left : List AbilityChoice)
    (free : ∀ m ∈ vantage.stack, m.IsDuplicateFree) :
    ∀ stage ∈ along vantage left, stage.candidates.Nodup := by
  induction left generalizing vantage with
  | nil => simp [along]
  | cons choice rest ih =>
    unfold along
    split
    · simp
    · next supplier candidates found =>
      obtain ⟨suffix, defined⟩ := Lookup.supplier?_eq_some found
      have freeBelow : ∀ m ∈ supplier.stack, m.IsDuplicateFree :=
        fun m member => free m (suffix.subset member)
      rw [List.forall_mem_cons]
      exact ⟨(freeBelow supplier.module List.mem_cons_self).nodup defined, ih freeBelow⟩

/-! ## Continuations of roots -/

/-- Two different names of which neither begins with the other one and a mark. -/
def Apart (first second : String) : Prop :=
  first ≠ second ∧ ¬ (first ++ "_").toList <+: second.toList ∧
    ¬ (second ++ "_").toList <+: first.toList

instance (first second : String) : Decidable (Apart first second) :=
  inferInstanceAs (Decidable (_ ∧ _ ∧ _))

/-- A name that is a root or goes on from it with a mark. -/
def GoesOn (root name : String) : Prop :=
  ∃ text, name.toList = root.toList ++ text ∧ (text = [] ∨ ∃ rest, text = '_' :: rest)

/-- If the longer of two roots is met on the way to a common continuation, it begins with the
shorter one and a mark. -/
theorem prefix_of_continued {first second : String} {text added : List Char}
    (ne : first ≠ second) (split : second.toList = first.toList ++ added)
    (marked : text = [] ∨ ∃ rest, text = '_' :: rest) (within : added <+: text) :
    (first ++ "_").toList <+: second.toList := by
  cases added with
  | nil =>
    rw [List.append_nil] at split
    exact absurd (String.toList_inj.1 split).symm ne
  | cons c added =>
    rcases marked with rfl | ⟨rest, rfl⟩
    · exact absurd (List.prefix_nil.1 within) (List.cons_ne_nil c added)
    · obtain ⟨rfl, _⟩ := List.cons_prefix_cons.1 within
      rw [split]
      simp

theorem Apart.not_goesOn {first second name : String} (apart : Apart first second)
    (fromFirst : GoesOn first name) : ¬ GoesOn second name := by
  rintro ⟨text', split', marked'⟩
  obtain ⟨text, split, marked⟩ := fromFirst
  rcases List.append_eq_append_iff.1 (split.symm.trans split') with
    ⟨added, longer, rfl⟩ | ⟨added, longer, rfl⟩
  · exact apart.2.1 (prefix_of_continued apart.1 longer marked (List.prefix_append _ _))
  · exact apart.2.2 (prefix_of_continued apart.1.symm longer marked' (List.prefix_append _ _))

/-! ## The stems of nodes -/

theorem Spot.toList_stemAt (spot : Spot) (path : List Nat) :
    (spot.stemAt path).toList = spot.stem.toList ++ Stage.pathText spot.stages path := by
  rw [stemAt, Stage.pathText]
  generalize List.zipWith Stage.suffix spot.stages path = parts
  generalize spot.stem = stem
  induction parts generalizing stem with
  | nil => simp
  | cons part parts ih =>
    rw [List.foldl_cons, ih, String.toList_append, List.append_assoc, List.flatMap_cons]

/-- The names of nodes are stems after the prefixes, no stem comes twice, and each one goes on from
a root. -/
structure HasStems (roots : List String) (nodes : List Woven) (stems : List String) : Prop where
  nodup : stems.Nodup
  rooted : ∀ stem ∈ stems, ∃ root ∈ roots, GoesOn root stem
  spells : nodes.map (fun node => node.spell.entry.name) = stems.map (spellPrefix ++ ·)
  boosts : ((nodes.filterMap Woven.boost?).map fun granted => granted.2.name).Sublist
    (stems.map (boostPrefix ++ ·))

theorem HasStems.nil : HasStems [] [] [] := ⟨List.nodup_nil, by simp, rfl, List.nil_sublist _⟩

theorem HasStems.append {roots more : List String} {nodes others : List Woven}
    {stems further : List String} (first : HasStems roots nodes stems)
    (second : HasStems more others further) (apart : ∀ a ∈ roots, ∀ b ∈ more, Apart a b) :
    HasStems (roots ++ more) (nodes ++ others) (stems ++ further) where
  nodup := by
    refine List.nodup_append'.2 ⟨first.nodup, second.nodup, fun stem inStems inFurther => ?_⟩
    obtain ⟨a, inRoots, fromRoot⟩ := first.rooted stem inStems
    obtain ⟨b, inMore, fromMore⟩ := second.rooted stem inFurther
    exact (apart a inRoots b inMore).not_goesOn fromRoot fromMore
  rooted := by
    intro stem member
    rcases List.mem_append.1 member with inStems | inFurther
    · obtain ⟨root, inRoots, goesOn⟩ := first.rooted stem inStems
      exact ⟨root, List.mem_append_left _ inRoots, goesOn⟩
    · obtain ⟨root, inMore, goesOn⟩ := second.rooted stem inFurther
      exact ⟨root, List.mem_append_right _ inMore, goesOn⟩
  spells := by rw [List.map_append, List.map_append, first.spells, second.spells]
  boosts := by
    rw [List.filterMap_append, List.map_append, List.map_append]
    exact first.boosts.append second.boosts

theorem spellNames_eq {feat : Feat} {spot : Spot} {paths : List (List Nat)} {nodes : List Woven}
    (each : List.Forall₂ (IsNodeAt feat spot) paths nodes) :
    nodes.map (fun node => node.spell.entry.name) =
      (paths.map spot.stemAt).map (spellPrefix ++ ·) := by
  induction each with
  | nil => rfl
  | cons isNode _ ih => rw [List.map_cons, isNode.name, ih]; rfl

theorem boostNames_sublist {feat : Feat} {spot : Spot} {paths : List (List Nat)}
    {nodes : List Woven} (each : List.Forall₂ (IsNodeAt feat spot) paths nodes) :
    ((nodes.filterMap Woven.boost?).map fun granted => granted.2.name).Sublist
      ((paths.map spot.stemAt).map (boostPrefix ++ ·)) := by
  induction each with
  | nil => exact List.nil_sublist _
  | @cons path node paths nodes isNode _ ih =>
    cases given : node.boost? with
    | none =>
      rw [List.filterMap_cons_none given]
      exact ih.cons _
    | some granted =>
      obtain ⟨_, name, _⟩ := isNode.boost granted given
      rw [List.filterMap_cons_some given, List.map_cons, name]
      exact ih.cons_cons _

theorem hasStems_of_known {feat : Feat} {spot : Spot} {paths : List (List Nat)}
    {nodes : List Woven} (distinct : ∀ stage ∈ spot.stages, stage.candidates.Nodup)
    (different : paths.Nodup) (known : ∀ path ∈ paths, Stage.Known spot.stages path)
    (each : List.Forall₂ (IsNodeAt feat spot) paths nodes) :
    HasStems [spot.stem] nodes (paths.map spot.stemAt) where
  nodup := by
    refine different.map_on fun first inFirst second inSecond same => ?_
    have texts := congrArg String.toList same
    rw [Spot.toList_stemAt, Spot.toList_stemAt] at texts
    exact Stage.pathText_injective distinct (known first inFirst) (known second inSecond)
      (List.append_cancel_left texts)
  rooted := by
    intro stem member
    obtain ⟨path, inPaths, rfl⟩ := List.mem_map.1 member
    have marked := (known path inPaths).pathText_marked
    exact ⟨spot.stem, List.mem_singleton_self _, _, spot.toList_stemAt path, marked⟩
  spells := spellNames_eq each
  boosts := boostNames_sublist each

end Weaving

namespace Fabric

def spellNames (fabric : Fabric) : List String := fabric.spells.gather fun _ spell => [spell.name]

def boostNames (fabric : Fabric) : List String := fabric.boosts.gather fun _ boost => [boost.name]

end Fabric

namespace Loom

open Weaving

variable {loom : Loom}

def rootName? (plot : Guid × Vantage) : Option String :=
  (woven? plot).map fun feat => feat.name ++ "_" ++ plot.2.module.normalizedName

def rootNames (loom : Loom) : List String := loom.plots.filterMap rootName?

/-- Where no list repeats a candidate, the nodes in a plot have stems that go on from its root. -/
def HasStemsIn (plot : Guid × Vantage) (nodes : List Woven) : Prop :=
  (∀ m ∈ plot.2.stack, m.IsDuplicateFree) →
    ∃ stems, HasStems (rootName? plot).toList nodes stems

theorem growRoot_hasStemsIn {featId : Guid} {vantage : Vantage} {before after : Nat}
    {root : Option Root} (grown : loom.growRoot featId vantage before = (root, .ok after)) :
    HasStemsIn (featId, vantage) (Root.nodesOf root.toList) := by
  intro free
  unfold rootName?
  rcases growRoot_cases grown with ⟨bare, none⟩ | ⟨feat, tree, woven, supported, nodes, ended⟩
  · rw [bare, none]
    exact ⟨[], .nil⟩
  · obtain ⟨items, awaits⟩ := loom.awaits_rootSite supported vantage
    rw [awaits.picksLeft_eq] at ended
    have distinct : ∀ stage ∈ (loom.spot vantage feat).stages, stage.candidates.Nodup :=
      Stage.nodup_along _ free
    have known := grow_known awaits ended
    have each := grow_isNodeAt awaits ended
    rw [woven, nodes]
    exact ⟨_, hasStems_of_known distinct (Slot.nodup_pathsFrom _ _) known each⟩

/-- Plots whose roots are apart have stems that are apart. -/
theorem hasStems_plots {plots : List (Guid × Vantage)} {nodes : List (List Woven)}
    (each : List.Forall₂ (fun plot nodes => ∃ stems, HasStems (rootName? plot).toList nodes stems)
      plots nodes) (apart : (plots.filterMap rootName?).Pairwise Apart) :
    ∃ stems, HasStems (plots.filterMap rootName?) nodes.flatten stems := by
  induction each with
  | nil => exact ⟨[], .nil⟩
  | @cons plot trees plots nodes first _ ih =>
    obtain ⟨stems, own⟩ := first
    have split : (plot :: plots).filterMap rootName? =
        (rootName? plot).toList ++ plots.filterMap rootName? := by
      cases named : rootName? plot with
      | none => exact List.filterMap_cons_none named
      | some root => exact List.filterMap_cons_some named
    rw [split, List.pairwise_append] at apart
    obtain ⟨further, others⟩ := ih apart.2.1
    rw [split, List.flatten_cons]
    exact ⟨_, own.append others apart.2.2⟩

theorem plots_suffix {plot : Guid × Vantage} (member : plot ∈ loom.plots) :
    plot.2.stack <:+ loom.modules := by
  obtain ⟨featId, _, inPlots⟩ := List.mem_flatMap.1 member
  obtain ⟨vantage, inStack, rfl⟩ := List.mem_map.1 inPlots
  exact Vantage.stack_suffix inStack

/-- In a run that does not end early every node has a stem of its own. -/
theorem weave_hasStems (free : ∀ m ∈ loom.modules, m.IsDuplicateFree)
    (apart : loom.rootNames.Pairwise Apart) {feats : List (List Root)} {before after : Nat}
    (grown : loom.growAll before = (feats, .ok after)) :
    ∃ stems, HasStems loom.rootNames (feats.flatMap Root.nodesOf) stems := by
  obtain ⟨nodes, same, each⟩ := growAll_plots growRoot_hasStemsIn grown
  have suffix : ∀ plot ∈ loom.plots, plot.2.stack <:+ loom.modules :=
    fun plot member => plots_suffix member
  have stems := ((List.forall₂_and_left ..).2 ⟨suffix, each⟩).imp
    fun plot nodes ⟨suffix, stems⟩ => stems fun m member => free m (suffix.subset member)
  rw [same]
  exact hasStems_plots stems apart

/-- Into an empty fabric no name is woven twice, neither of a spell nor of a boost, if the roots are
apart and no module names a candidate twice in a list. -/
theorem nodup_names_weave (loom : Loom) (free : ∀ m ∈ loom.modules, m.IsDuplicateFree)
    (apart : loom.rootNames.Pairwise Apart) (ended : (loom.weave {}).fault = none) :
    (loom.weave {}).fabric.spellNames.Nodup ∧ (loom.weave {}).fabric.boostNames.Nodup := by
  obtain ⟨feats, left, grown, woven⟩ := weave_ok ended
  obtain ⟨stems, hasStems⟩ := weave_hasStems free apart grown
  obtain ⟨spells, boosts⟩ := Fabric.foldl_addFeat loom.base {} feats
  rw [← woven] at spells boosts
  have prefixed (mark : String) : (stems.map (mark ++ ·)).Nodup :=
    hasStems.nodup.map fun first second same => (String.append_right_inj mark).1 same
  constructor
  · have named : (loom.weave {}).fabric.spellNames.Perm (stems.map (spellPrefix ++ ·)) := by
      have gathered := (OrderedMap.empty : OrderedMap String (List StatEntry)).gather_appendAll_perm
        (fun _ spell => [spell.name])
        ((feats.flatMap Root.nodesOf).map fun node => (node.spell.module, node.spell.entry))
      rw [List.flatMap_map, ← List.map_eq_flatMap, hasStems.spells, ← spells] at gathered
      exact gathered
    exact named.nodup_iff.2 (prefixed spellPrefix)
  · have gathered := (OrderedMap.empty : OrderedMap String (List StatEntry)).gather_appendAll_perm
      (fun _ boost => [boost.name]) ((feats.flatMap Root.nodesOf).filterMap Woven.boost?)
    rw [← List.map_eq_flatMap, ← boosts] at gathered
    exact gathered.nodup_iff.2 ((prefixed boostPrefix).sublist hasStems.boosts)

/-- Two feats in a module whose lists come from the module below it; the name of the second feat
goes on from that of the first one with a mark, but their roots are apart. -/
theorem nodup_names_weave_marked :
    let list : OrderedMap Guid (List String) := .ofList [(Guid.nil, ["Strength", "Wisdom"])]
    let gift : Feat :=
      { id := Guid.nil, name := "Gift", selectors := [.ability ⟨Guid.nil, 2, 1, "Score"⟩] }
    let giftOf : Feat :=
      { id := Guid.ofNat 1, name := "Gift_Of", selectors := [.ability ⟨Guid.nil, 1, 1, "Score"⟩] }
    let upper : Module := { name := some "Up Per", feats := [gift, giftOf] }
    let lower : Module := { name := some "Lower", lists := .ofList [(.ability, list)] }
    let loom : Loom := { modules := [upper, lower] }
    (∀ m ∈ loom.modules, m.IsDuplicateFree) ∧
      loom.rootNames = ["Gift_Up_Per", "Gift_Of_Up_Per"] ∧ loom.rootNames.Pairwise Apart ∧
      (loom.weave {}).fault = none ∧ (loom.weave {}).fabric.spellCount = 8 ∧
      (loom.weave {}).fabric.spellNames.Nodup ∧ (loom.weave {}).fabric.boostNames.Nodup := by
  intro list gift giftOf upper lower loom
  have free : ∀ m ∈ loom.modules, m.IsDuplicateFree := by decide
  have roots : loom.rootNames = ["Gift_Up_Per", "Gift_Of_Up_Per"] := by decide
  have apart : loom.rootNames.Pairwise Apart := by
    rw [roots]
    decide
  have ended : (loom.weave {}).fault = none := by decide
  exact ⟨free, roots, apart, ended, by decide, nodup_names_weave loom free apart ended⟩

end Loom

end FeatLoom
