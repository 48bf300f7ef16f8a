import FeatLoom.Proofs.Weaving.Growth
import FeatLoom.Weaving.Loom
import Mathlib.Algebra.Ring.Nat

/-!
# Spending the allowance

Every leaf and every dead end takes one from the allowance, and nothing else does. Growth that ends
at the limit has counted one terminal more than was allowed; growth that ends in another way has
stayed within the allowance.
-/

namespace FeatLoom

namespace Woven

def isTerminal (tree : Woven) : Bool := tree.isLeaf || tree.isDeadEnd

def terminalCount (tree : Woven) : Nat := tree.nodes.countP isTerminal

theorem countP_isTerminal (nodes : List Woven) :
    nodes.countP isTerminal = nodes.countP isLeaf + nodes.countP isDeadEnd := by
  induction nodes with
  | nil => rfl
  | cons node nodes ih =>
    rw [List.countP_cons, List.countP_cons, List.countP_cons, ih]
    cases node with
    | leaf => simp [isTerminal, isLeaf, isDeadEnd, Nat.add_right_comm]
    | deadEnd => simp [isTerminal, isLeaf, isDeadEnd, Nat.add_assoc]
    | branch => simp [isTerminal, isLeaf, isDeadEnd]

theorem terminalCount_branch (spell : ModuleSpell) (children : List Woven) :
    (branch spell children).terminalCount = (children.map terminalCount).sum := by
  rw [terminalCount, nodes, nodesOf_eq_flatMap, List.countP_cons_of_neg Bool.false_ne_true,
    List.countP_flatMap]
  rfl

end Woven

namespace Weaving

/-- What has been counted when growth with an allowance ends. -/
def Spends (allowed counted : Nat) : Except WeaveError Nat → Prop
  | .ok left => left + counted = allowed
  | .error (.limitExceeded _ _) => counted = allowed + 1
  | .error _ => counted ≤ allowed

variable {allowed left counted more : Nat} {outcome : Except WeaveError Nat}

theorem Spends.add (before : left + counted = allowed) (spends : Spends left more outcome) :
    Spends allowed (counted + more) outcome := by
  unfold Spends at spends ⊢
  split at spends <;> omega

theorem Spends.le (spends : Spends allowed counted outcome) : counted ≤ allowed + 1 := by
  unfold Spends at spends
  split at spends <;> omega

theorem spends_nothing {fault : WeaveError}
    (other : ∀ limit feat, fault ≠ .limitExceeded limit feat) :
    Spends allowed 0 (.error fault) := by
  cases fault with
  | limitExceeded limit feat => exact absurd rfl (other limit feat)
  | _ => exact Nat.zero_le allowed

theorem spends_count (feat : Feat) (limit : Int) : Spends allowed 1 (count feat limit allowed) := by
  cases allowed with
  | zero => rfl
  | succ left => rfl

/-- What the growth of every item spends is spent together by the growth of a list. -/
theorem spends_growEach {α β : Type} {grow : α → Nat → Growth (Option β)} {weight : β → Nat}
    (each : ∀ item allowed,
      Spends allowed ((grow item allowed).1.elim 0 weight) (grow item allowed).2)
    (items : List α) (allowed : Nat) :
    Spends allowed ((growEach grow items allowed).1.map weight).sum
      (growEach grow items allowed).2 := by
  induction items generalizing allowed with
  | nil => rfl
  | cons item items ih =>
    have first := each item allowed
    have one (grown : Option β) : (grown.toList.map weight).sum = grown.elim 0 weight := by
      cases grown <;> simp
    unfold growEach
    generalize grow item allowed = grown at first ⊢
    obtain ⟨grown, fault | left⟩ := grown
    · rw [one]
      exact first
    · rw [List.map_append, List.sum_append, one]
      exact Spends.add first (ih left)

theorem spends_growLeaf (feat : Feat) (limit : Int) (site : Site) (allowed : Nat) :
    Spends allowed (growLeaf feat limit site allowed).1.terminalCount
      (growLeaf feat limit site allowed).2 := by
  cases allowed with
  | zero => rfl
  | succ left => rfl

theorem choice_ne_limitExceeded {site : Site} {fault : WeaveError}
    (failed : site.choice = .error fault) (limit : Int) (feat : String) :
    fault ≠ .limitExceeded limit feat := by
  unfold Site.choice at failed
  grind

theorem spends_grow (feat : Feat) (limit : Int) (depth : Nat) (site : Site) (allowed : Nat) :
    Spends allowed (grow feat limit depth site allowed).1.terminalCount
      (grow feat limit depth site allowed).2 := by
  induction depth generalizing site allowed with
  | zero => exact spends_growLeaf feat limit site allowed
  | succ depth ih =>
    have pick (supplier : Vantage) (kind : ListKind) (option : String × Expansion)
        (allowed : Nat) :
        Spends allowed
          ((growPick feat limit depth site supplier kind option allowed).1.elim 0
            Woven.terminalCount)
          (growPick feat limit depth site supplier kind option allowed).2 := by
      rcases growPick_cases site supplier kind option with ⟨fault, other, ended⟩ | ⟨next, -, grows⟩
      · rw [ended]
        exact spends_nothing other
      · rw [grows]
        exact ih next allowed
    cases chosen : site.choice with
    | error fault =>
      simp only [grow, chosen]
      exact spends_nothing (choice_ne_limitExceeded chosen)
    | ok choice =>
      cases choice with
      | missing kind list =>
        simp only [grow, chosen]
        exact spends_count feat limit
      | picks supplier kind options =>
        by_cases pickable : options = []
        · subst pickable
          simp only [grow, chosen]
          exact spends_count feat limit
        · rw [grow_of_picks chosen pickable, Woven.terminalCount_branch]
          exact spends_growEach (pick supplier kind) options allowed

end Weaving

namespace Root

def terminalCount (root : Root) : Nat := root.tree?.elim 0 Woven.terminalCount

theorem countP_nodesOf (roots : List Root) :
    (nodesOf roots).countP Woven.isTerminal = (roots.map terminalCount).sum := by
  induction roots with
  | nil => rfl
  | cons root roots ih =>
    rw [List.map_cons, List.sum_cons, ← ih]
    cases root with
    | masked module => exact (Nat.zero_add _).symm
    | woven tree => exact List.countP_append

end Root

namespace Loom

open Weaving

variable (loom : Loom)

theorem spends_growRoot (id : Guid) (vantage : Vantage) (allowed : Nat) :
    Spends allowed ((loom.growRoot id vantage allowed).1.elim 0 Root.terminalCount)
      (loom.growRoot id vantage allowed).2 := by
  unfold growRoot
  split
  · rfl
  · split
    · exact spends_grow ..
    · rfl

theorem spends_growAll (allowed : Nat) :
    Spends allowed (((loom.growAll allowed).1.flatMap Root.nodesOf).countP Woven.isTerminal)
      (loom.growAll allowed).2 := by
  have feat (id : Guid) (allowed : Nat) : Spends allowed
      ((loom.growFeat id allowed).1.elim 0 fun roots => (roots.map Root.terminalCount).sum)
      (loom.growFeat id allowed).2 :=
    spends_growEach (loom.spends_growRoot id) (Vantage.all loom.modules) allowed
  rw [List.countP_flatMap]
  simp only [Function.comp_def, Root.countP_nodesOf]
  exact spends_growEach feat loom.featIds allowed

end Loom

namespace Fabric

theorem leaves_foldl_addFeat (base : String) (fabric : Fabric) (feats : List (List Root)) :
    (feats.foldl (addFeat base) fabric).leaves =
      fabric.leaves + (feats.flatMap Root.nodesOf).countP Woven.isLeaf := by
  induction feats generalizing fabric with
  | nil => rfl
  | cons roots feats ih =>
    rw [List.foldl_cons, ih, List.flatMap_cons, List.countP_append, ← Nat.add_assoc]
    rfl

theorem deadEnds_foldl_addFeat (base : String) (fabric : Fabric) (feats : List (List Root)) :
    (feats.foldl (addFeat base) fabric).deadEnds =
      fabric.deadEnds + (feats.flatMap Root.nodesOf).countP Woven.isDeadEnd := by
  induction feats generalizing fabric with
  | nil => rfl
  | cons roots feats ih =>
    rw [List.foldl_cons, ih, List.flatMap_cons, List.countP_append, ← Nat.add_assoc]
    rfl

theorem terminals_foldl_addFeat (base : String) (fabric : Fabric) (feats : List (List Root)) :
    (feats.foldl (addFeat base) fabric).terminals =
      fabric.terminals + (feats.flatMap Root.nodesOf).countP Woven.isTerminal := by
  rw [terminals, terminals, leaves_foldl_addFeat, deadEnds_foldl_addFeat, Woven.countP_isTerminal]
  omega

end Fabric

theorem Loom.terminals_weave_le (loom : Loom) :
    (loom.weave {}).fabric.terminals ≤ loom.limit.toNat + 1 := by
  have spends := loom.spends_growAll (loom.allowance {})
  have allowance : loom.allowance {} = loom.limit.toNat :=
    congrArg Int.toNat (Int.sub_zero loom.limit)
  have counted : (loom.weave {}).fabric.terminals = 0 + _ :=
    Fabric.terminals_foldl_addFeat loom.base {} (loom.growAll (loom.allowance {})).1
  rw [counted, Nat.zero_add, ← allowance]
  exact spends.le

end FeatLoom
