import FeatLoom.Description
import FeatLoom.Module

/-!
# Looking things up in a stack of modules

Modules are stacked with the overriding ones on top. Seen from a module, what is not defined there
is looked for in the modules below it, and the nearest definition counts. Stat entries inherit from
a parent by name; every step of the inheritance starts again at the module from which one looks.
-/

namespace FeatLoom

/-- A module in a stack, with the modules below it. -/
structure Vantage where
  module : Module
  below : List Module
  deriving DecidableEq

namespace Vantage

instance : Inhabited Vantage := ⟨⟨default, []⟩⟩

def stack (vantage : Vantage) : List Module := vantage.module :: vantage.below

def all : List Module → List Vantage
  | [] => []
  | m :: below => ⟨m, below⟩ :: all below

end Vantage

namespace Lookup

def supplier? (kind : ListKind) (list : Guid) : List Module → Option (Vantage × List String)
  | [] => none
  | m :: below =>
    match m.candidates? kind list with
    | some candidates => some (⟨m, below⟩, candidates)
    | none => supplier? kind list below

def description? (modules : List Module) (feat : Guid) : Option FeatDescription :=
  modules.findSome? fun m => m.descriptions.get? feat

def stat? (modules : List Module) (name : String) : Option StatEntry :=
  modules.findSome? fun m => m.stats.get? name

def statNames (modules : List Module) : List String :=
  ((modules.flatMap fun m => m.stats.keys).filter (· ≠ "")).eraseDups

def close (name : String) (opens : List String) : List String := opens.filter (· ≠ name)

theorem length_close {name : String} {opens : List String} (isOpen : name ∈ opens) :
    (close name opens).length < opens.length := by
  unfold close
  rw [List.length_filter_lt_length_iff_exists]
  exact ⟨name, isOpen, by simp⟩

/-- The entries that an entry inherits from, itself first, as far as their names are open. A name
is open until it has been met. -/
def ancestry (modules : List Module) (opens : List String) (name : String) : List StatEntry :=
  if _open : name ∈ opens then
    match stat? modules name with
    | none => []
    | some entry => entry :: ancestry modules (close name opens) (entry.parent.getD "")
  else []
termination_by opens.length
decreasing_by exact length_close _open

def statField? (modules : List Module) (name key : String) : Option (List String) :=
  (ancestry modules (statNames modules) name).findSome? fun entry => entry.get? key

def passiveIcon? (modules : List Module) (passive : String) : Option String :=
  ((statField? modules passive "Icon").bind List.head?).filter (· ≠ "")

def icon (modules : List Module) (passives : List String) : String :=
  (passives.findSome? (passiveIcon? modules)).getD genericIcon

/-- The description of a feat: texts from the nearest module that describes it, and the icon of its
passives. -/
def describeFeat (modules : List Module) (feat : Feat) : EntryDescription :=
  let texts := description? modules feat.id
  { displayName := texts.map FeatDescription.displayName
    description := texts.map FeatDescription.description
    icon := icon modules feat.passives }

end Lookup

end FeatLoom
