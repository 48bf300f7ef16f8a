import FeatLoom.Proofs.Weaving.Allowance
import FeatLoom.Proofs.Weaving.Refinement

/-!
# The record of a run

The roots of a run do not say which feat they grew for. Growth that labels each root with its feat
is otherwise the same growth, and its nodes in order, each with its feat, are the record of the run.
The fabric that a run makes from nothing is read off its record: the spells, the boosts, and the
number of terminals, which are the leaves and the dead ends.
-/

namespace FeatLoom

abbrev Record := List (Feat × Woven)

namespace Record

def nodes (record : Record) : List Woven := record.map Prod.snd

def terminals (record : Record) : List Feat :=
  (record.filter fun entry => entry.2.isTerminal).map Prod.fst

def spellNames (record : Record) : List (String × String) :=
  record.nodes.map fun node => (node.spell.module, node.spell.entry.name)

def boosts (record : Record) : List (String × StatEntry) := record.nodes.filterMap Woven.boost?

variable (record more : Record)

@[simp] theorem terminals_append :
    terminals (record ++ more) = terminals record ++ terminals more := by
  simp [terminals]

@[simp] theorem spellNames_append :
    spellNames (record ++ more) = spellNames record ++ spellNames more := by
  simp [spellNames, nodes]

@[simp] theorem boosts_append : boosts (record ++ more) = boosts record ++ boosts more := by
  simp [boosts, nodes]

theorem length_terminals : record.terminals.length = record.nodes.countP Woven.isTerminal := by
  rw [terminals, List.length_map, nodes, List.countP_map, List.countP_eq_length_filter]
  rfl

end Record

def Woven.record (feat : Feat) (tree : Woven) : Record := tree.nodes.map fun node => (feat, node)

namespace Loom

open Weaving

variable (loom : Loom)

def growLabelledRoot (id : Guid) (vantage : Vantage) (allowed : Nat) :
    Growth (Option (Feat × Root)) :=
  let (root, outcome) := loom.growRoot id vantage allowed
  (root.bind fun root => (vantage.module.feat? id).map fun feat => (feat, root), outcome)

def growLabelledFeat (id : Guid) (allowed : Nat) : Growth (Option (List (Feat × Root))) :=
  let (roots, outcome) :=
    growEach (loom.growLabelledRoot id) (Vantage.all loom.modules) allowed
  (some roots, outcome)

def growLabelledAll (allowed : Nat) : Growth (List (List (Feat × Root))) :=
  growEach loom.growLabelledFeat loom.featIds allowed

def rootRecord (labelled : Feat × Root) : Record :=
  labelled.2.tree?.toList.flatMap (Woven.record labelled.1)

def record : Record :=
  (loom.growLabelledAll (loom.allowance {})).1.flatMap fun roots => roots.flatMap rootRecord

end Loom

/-! ## Labels change nothing -/

theorem Weaving.growEach_map {α β γ : Type} {grow : α → Nat → Growth (Option β)}
    {other : α → Nat → Growth (Option γ)} {f : β → γ}
    (same : ∀ item allowed, other item allowed =
      ((grow item allowed).1.map f, (grow item allowed).2)) (items : List α) (allowed : Nat) :
    growEach other items allowed =
      ((growEach grow items allowed).1.map f, (growEach grow items allowed).2) := by
  induction items generalizing allowed with
  | nil => rfl
  | cons item items ih =>
    rw [growEach, growEach, same]
    obtain ⟨grown, fault | left⟩ := grow item allowed
    · cases grown <;> rfl
    · simp only [ih]
      cases grown <;> rfl

namespace Loom

open Weaving

variable (loom : Loom)

theorem growRoot_eq_labelled (id : Guid) (vantage : Vantage) (allowed : Nat) :
    loom.growRoot id vantage allowed =
      ((loom.growLabelledRoot id vantage allowed).1.map Prod.snd,
        (loom.growLabelledRoot id vantage allowed).2) := by
  unfold growLabelledRoot growRoot
  cases vantage.module.feat? id with
  | none => rfl
  | some feat =>
    by_cases supported : feat.isSupported <;> simp [supported]

theorem growAll_eq_labelled (allowed : Nat) :
    loom.growAll allowed =
      ((loom.growLabelledAll allowed).1.map (List.map Prod.snd),
        (loom.growLabelledAll allowed).2) := by
  refine growEach_map (fun id left => ?_) loom.featIds allowed
  rw [growFeat, growLabelledFeat,
    growEach_map (fun vantage left => loom.growRoot_eq_labelled id vantage left)]
  rfl

theorem nodes_flatMap_rootRecord (roots : List (Feat × Root)) :
    Record.nodes (roots.flatMap rootRecord) = Root.nodesOf (roots.map Prod.snd) := by
  induction roots with
  | nil => rfl
  | cons labelled roots ih =>
    obtain ⟨feat, root⟩ := labelled
    rw [List.flatMap_cons, Record.nodes, List.map_append, ← Record.nodes, ← Record.nodes, ih]
    cases root with
    | masked module => rfl
    | woven tree => simp [rootRecord, Root.tree?, Woven.record, Record.nodes, Root.nodesOf,
        Function.comp_def]

theorem nodes_record :
    loom.record.nodes = (loom.growAll (loom.allowance {})).1.flatMap Root.nodesOf := by
  rw [growAll_eq_labelled, record]
  generalize (loom.growLabelledAll (loom.allowance {})).1 = feats
  induction feats with
  | nil => rfl
  | cons roots feats ih =>
    rw [List.flatMap_cons, Record.nodes, List.map_append, ← Record.nodes, ← Record.nodes, ih,
      nodes_flatMap_rootRecord]
    rfl

end Loom

/-! ## The fabric of a run -/

namespace Loom

variable (loom : Loom)

theorem terminals_weave : (loom.weave {}).fabric.terminals = loom.record.terminals.length := by
  rw [Record.length_terminals, nodes_record]
  exact (Fabric.terminals_foldl_addFeat loom.base {} _).trans (Nat.zero_add _)

theorem spells_weave : (loom.weave {}).fabric.spells = OrderedMap.empty.appendAll
    (loom.record.nodes.map fun node => (node.spell.module, node.spell.entry)) := by
  rw [nodes_record]
  exact (Fabric.foldl_addFeat loom.base {} _).1

theorem boosts_weave :
    (loom.weave {}).fabric.boosts = OrderedMap.empty.appendAll loom.record.boosts := by
  rw [Record.boosts, nodes_record]
  exact (Fabric.foldl_addFeat loom.base {} _).2

end Loom

end FeatLoom
