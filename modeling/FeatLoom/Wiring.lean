import FeatLoom.OrderedMap

/-!
# Wiring

The wiring says which spells open under which. A tier lists, by module, the spells that one choice
leads to, and every parent spell has a list of tiers. Tiers are kept in one place and known to their
parents by number, so a tier that is wired under several parents is one tier, and what is added to
it later shows under all of them.
-/

namespace FeatLoom

abbrev Tier := OrderedMap String (List String)

namespace Tier

/-- Registers a module, and a spell of it if one is given. An empty name is no spell. -/
def register (tier : Tier) (module : String) (spell : Option String) : Tier :=
  tier.alter module fun present =>
    present.getD [] ++ (spell.filter (· ≠ "")).toList

def hasSpells (tier : Tier) : Bool := tier.entries.any fun entry => !entry.2.isEmpty

end Tier

/-- The tiers by number, and the tiers of each parent spell. -/
structure Wiring where
  tiers : Array Tier := #[]
  parents : OrderedMap String (List Nat) := OrderedMap.empty

namespace Wiring

instance : Inhabited Wiring := ⟨{}⟩

def tier (wiring : Wiring) (n : Nat) : Tier := wiring.tiers.getD n OrderedMap.empty

/-- Adds a tier that is wired nowhere yet; its number is the count of the tiers before. -/
def newTier (wiring : Wiring) (tier : Tier) : Wiring :=
  { wiring with tiers := wiring.tiers.push tier }

def register (wiring : Wiring) (n : Nat) (module : String) (spell : Option String) : Wiring :=
  { wiring with tiers := wiring.tiers.modify n fun tier => tier.register module spell }

def wire (wiring : Wiring) (parent : String) (n : Nat) : Wiring :=
  { wiring with parents := wiring.parents.alter parent fun present => present.getD [] ++ [n] }

def addTier (wiring : Wiring) (parent : String) (tier : Tier) : Wiring :=
  (wiring.newTier tier).wire parent wiring.tiers.size

def prune (wiring : Wiring) : Wiring :=
  let kept := wiring.parents.mapValues fun _ numbers =>
    numbers.filter fun n => (wiring.tier n).hasSpells
  { wiring with parents := kept.filter fun _ numbers => !numbers.isEmpty }

def view (wiring : Wiring) : List (String × List Tier) :=
  wiring.parents.entries.map fun entry => (entry.1, entry.2.map wiring.tier)

end Wiring

end FeatLoom
