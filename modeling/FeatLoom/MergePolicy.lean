import FeatLoom.Module

/-!
# Merge policies

When a later snapshot of a module is merged over an earlier one, each field follows a policy. A
single value is replaced when the later one is set; maps are written over key by key, on one level
or on two. The unset value is neutral, and merging a value with itself changes nothing.
-/

namespace FeatLoom

inductive MergePolicy where
  | overrideIfSet
  | replaceIfNonempty
  | perKeyOverride
  | nestedPerKeyOverride
  deriving DecidableEq, Inhabited

namespace MergePolicy

def name : MergePolicy → String
  | overrideIfSet => "OVERRIDE_IF_SET"
  | replaceIfNonempty => "REPLACE_IF_NONEMPTY"
  | perKeyOverride => "PER_KEY_OVERRIDE"
  | nestedPerKeyOverride => "NESTED_PER_KEY_OVERRIDE"

end MergePolicy

/-- Types with a value that stands for nothing said. -/
class HasUnset (α : Type) where
  isSet : α → Bool

instance : HasUnset Guid := ⟨fun id => !id.isNil⟩
instance : HasUnset Int := ⟨fun n => n != 0⟩
instance : HasUnset Version := ⟨fun v => v.number != 0⟩
instance {α : Type} : HasUnset (List α) := ⟨fun xs => !xs.isEmpty⟩
instance {κ ν : Type} : HasUnset (OrderedMap κ ν) := ⟨fun m => !m.isEmpty⟩

def mergeSet {α : Type} [HasUnset α] (current incoming : α) : α :=
  if HasUnset.isSet incoming then incoming else current

def mergeKeys {κ ν : Type} [DecidableEq κ] (current incoming : OrderedMap κ ν) :
    OrderedMap κ ν :=
  current.union incoming

def mergeNested {κ ι ν : Type} [DecidableEq κ] [DecidableEq ι]
    (current incoming : OrderedMap κ (OrderedMap ι ν)) : OrderedMap κ (OrderedMap ι ν) :=
  incoming.entries.foldl
    (fun merged entry => merged.alter entry.1 fun present =>
      (present.getD OrderedMap.empty).union entry.2)
    current

inductive ModuleField where
  | id
  | version
  | descriptions
  | feats
  | dependencies
  | stats
  | lists
  deriving DecidableEq, Inhabited

namespace ModuleField

def all : List ModuleField := [id, version, descriptions, feats, dependencies, stats, lists]

def name : ModuleField → String
  | id => "id"
  | version => "version"
  | descriptions => "descriptions"
  | feats => "feats"
  | dependencies => "dependencies"
  | stats => "stats"
  | lists => "lists"

def policy : ModuleField → MergePolicy
  | id => .overrideIfSet
  | version => .overrideIfSet
  | descriptions => .replaceIfNonempty
  | feats => .replaceIfNonempty
  | dependencies => .replaceIfNonempty
  | stats => .perKeyOverride
  | lists => .nestedPerKeyOverride

def policyOf? (name : String) : Option MergePolicy :=
  (all.find? fun field => field.name == name).map policy

end ModuleField

end FeatLoom
