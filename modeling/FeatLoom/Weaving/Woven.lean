import FeatLoom.StatEntry
import FeatLoom.Wiring

/-!
# Woven trees

Weaving a feat in a module grows a tree. Its leaves are the completed choices, each with a spell and
a boost. A branch is a spell that opens a choice, with a subtree for every pick, and a dead end is
such a spell without any legal pick. `Woven.nodes` lists a tree in the order in which it grows, and
what a tree contributes to the output is read off that list.
-/

namespace FeatLoom

structure ModuleSpell where
  module : String
  entry : StatEntry
  deriving DecidableEq, Inhabited

inductive Woven where
  /-- The end of all choices. The boost is missing where the limit was reached. -/
  | leaf (spell : ModuleSpell) (boost : Option StatEntry)
  /-- A choice without picks, with a warning if its list was not found. -/
  | deadEnd (spell : ModuleSpell) (warning : Option String)
  | branch (spell : ModuleSpell) (children : List Woven)

namespace Woven

instance : Inhabited Woven := ⟨deadEnd default none⟩

def spell : Woven → ModuleSpell
  | leaf spell _ => spell
  | deadEnd spell _ => spell
  | branch spell _ => spell

mutual

def nodes : Woven → List Woven
  | leaf spell boost => [leaf spell boost]
  | deadEnd spell warning => [deadEnd spell warning]
  | branch spell children => branch spell children :: nodesOf children

def nodesOf : List Woven → List Woven
  | [] => []
  | tree :: rest => tree.nodes ++ nodesOf rest

end

theorem nodesOf_eq_flatMap (trees : List Woven) : nodesOf trees = trees.flatMap nodes := by
  induction trees with
  | nil => rfl
  | cons tree rest ih => simp [nodesOf, ih]

def isLeaf : Woven → Bool
  | leaf .. => true
  | _ => false

def isDeadEnd : Woven → Bool
  | deadEnd .. => true
  | _ => false

def boost? : Woven → Option (String × StatEntry)
  | leaf spell boost => boost.map fun entry => (spell.module, entry)
  | _ => none

def warning? : Woven → Option String
  | deadEnd _ warning => warning
  | _ => none

def tierOf (spells : List ModuleSpell) : Tier :=
  spells.foldl (fun tier spell => tier.register spell.module (some spell.entry.name))
    OrderedMap.empty

def tier? : Woven → Option (String × Tier)
  | leaf .. => none
  | deadEnd spell _ => some (spell.entry.name, OrderedMap.empty)
  | branch spell children => some (spell.entry.name, tierOf (children.map Woven.spell))

end Woven

end FeatLoom
