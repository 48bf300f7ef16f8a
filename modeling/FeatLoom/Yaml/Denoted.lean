import FeatLoom.Yaml.Scalar

/-!
# What nodes denote

A node denotes a value, or has a fault. Of several faults in a document the outermost counts, and of
those the first: what stands inside a list or a mapping is looked at after all that stands around
it.
-/

namespace FeatLoom.Yaml

/-- A fault, and the number of lists and mappings between it and the node that it is in. -/
structure Fault where
  depth : Nat
  error : Error

namespace Fault

/-- The outer one of two faults; the first of two that are equally far in. -/
def outer : Option Fault → Option Fault → Option Fault
  | some a, some b => some (if b.depth < a.depth then b else a)
  | none, b => b
  | a, none => a

/-- The outermost of some faults; the first of those that are equally far in. -/
def outermost (faults : List (Option Fault)) : Option Fault := faults.foldl outer none

def inside (fault : Option Fault) : Option Fault :=
  fault.map fun found => { found with depth := found.depth + 1 }

end Fault

structure Denoted where
  value : Value
  fault : Option Fault := none

namespace Denoted

instance : Inhabited Denoted := ⟨⟨.null, none⟩⟩

def faulty (error : Error) : Denoted := ⟨.null, some ⟨0, error⟩⟩

def misfit (value : Value) : Denoted := ⟨value, some ⟨1, .malformed⟩⟩

def ofExcept : Except Error Value → Denoted
  | .ok value => ⟨value, none⟩
  | .error error => faulty error

def list (items : List Denoted) : Denoted :=
  ⟨.list (items.map value), Fault.inside (Fault.outermost (items.map fault))⟩

def pair (first second : Denoted) : Denoted :=
  ⟨.pair first.value second.value, Fault.outer first.fault second.fault⟩

/-- The fault of an entry of a mapping. Lists, mappings and sets are no keys. -/
def entryFault (entry : Denoted × Denoted) : Option Fault :=
  let unusable := if entry.1.value.isKey then none else some ⟨0, .malformed⟩
  Fault.outermost [entry.1.fault, unusable, entry.2.fault]

def map (entries : List (Denoted × Denoted)) : Denoted :=
  ⟨.map (entries.foldl (fun made entry => Value.setEntry entry.1.value entry.2.value made) []),
    Fault.inside (Fault.outermost (entries.map entryFault))⟩

def keys (found : Denoted) : Denoted :=
  match found.value with
  | .map entries => { found with value := .set (entries.map Prod.fst) }
  | _ => found

def scalar (tag text : String) : Denoted := ofExcept (Scalar.value tag text)

def unfit (tag : String) : Denoted :=
  if [Tag.list, Tag.pairs, Tag.orderedMap].contains tag then misfit (.list [])
  else if tag = Tag.map then misfit (.map [])
  else if tag = Tag.set then misfit (.set [])
  else faulty .malformed

def toExcept (found : Denoted) : Except Error Value :=
  match found.fault with
  | some fault => .error fault.error
  | none => .ok found.value

end Denoted

end FeatLoom.Yaml
