import FeatLoom.Lookup
import Mathlib.Data.List.Infix

/-!
# What a look-up finds

A look-up goes through the modules of a stack from the top down. It fails only where no module of
the stack has a definition, and a definition at the top comes before all others.
-/

namespace FeatLoom

theorem Vantage.stack_suffix {modules : List Module} {vantage : Vantage}
    (member : vantage ∈ all modules) : vantage.stack <:+ modules := by
  induction modules with
  | nil => cases member
  | cons m below ih =>
    rcases List.mem_cons.1 member with rfl | later
    · exact List.suffix_rfl
    · exact (ih later).trans (List.suffix_cons m below)

theorem Vantage.getElem?_all_eq_some_iff {modules : List Module} {vantage : Vantage}
    {index : Nat} : (all modules)[index]? = some vantage ↔ modules.drop index = vantage.stack := by
  induction modules generalizing index with
  | nil => simp [all, stack]
  | cons m below ih =>
    obtain ⟨module, others⟩ := vantage
    cases index with
    | zero => simp [all, stack]
    | succ index => simpa [all] using ih

theorem Vantage.map_module_all (modules : List Module) :
    (all modules).map Vantage.module = modules := by
  induction modules with
  | nil => rfl
  | cons m below ih => rw [all, List.map_cons, ih]

namespace Lookup

section Supplier

variable {kind : ListKind} {list : Guid} {modules : List Module}

theorem supplier?_eq_some {supplier : Vantage} {candidates : List String}
    (found : supplier? kind list modules = some (supplier, candidates)) :
    supplier.stack <:+ modules ∧ supplier.module.candidates? kind list = some candidates := by
  induction modules with
  | nil => cases found
  | cons m below ih =>
    unfold supplier? at found
    split at found
    · next defined =>
      obtain ⟨rfl, rfl⟩ := Prod.mk.inj (Option.some.inj found)
      exact ⟨List.suffix_rfl, defined⟩
    · obtain ⟨suffix, defined⟩ := ih found
      exact ⟨suffix.trans (List.suffix_cons m below), defined⟩

theorem supplier?_eq_none_iff :
    supplier? kind list modules = none ↔ ∀ m ∈ modules, m.candidates? kind list = none := by
  induction modules with
  | nil => simp [supplier?]
  | cons m below ih =>
    unfold supplier?
    cases defined : m.candidates? kind list with
    | some candidates => simp [defined]
    | none => simp [defined, ih]

theorem supplier?_of_defined {vantage : Vantage} {candidates : List String}
    (defined : vantage.module.candidates? kind list = some candidates) :
    supplier? kind list vantage.stack = some (vantage, candidates) := by
  rw [Vantage.stack, supplier?, defined]

end Supplier

section Nearest

variable {modules : List Module} {vantage : Vantage}

theorem description?_eq_none_iff {feat : Guid} :
    description? modules feat = none ↔ ∀ m ∈ modules, m.descriptions.get? feat = none :=
  List.findSome?_eq_none_iff

theorem description?_of_defined {feat : Guid} {description : FeatDescription}
    (defined : vantage.module.descriptions.get? feat = some description) :
    description? vantage.stack feat = some description := by
  rw [description?, Vantage.stack, List.findSome?_cons, defined]

theorem stat?_eq_none_iff {name : String} :
    stat? modules name = none ↔ ∀ m ∈ modules, m.stats.get? name = none :=
  List.findSome?_eq_none_iff

theorem stat?_of_defined {name : String} {entry : StatEntry}
    (defined : vantage.module.stats.get? name = some entry) :
    stat? vantage.stack name = some entry := by
  rw [stat?, Vantage.stack, List.findSome?_cons, defined]

end Nearest

end Lookup

end FeatLoom
