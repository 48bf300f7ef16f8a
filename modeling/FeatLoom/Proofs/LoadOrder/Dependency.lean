import FeatLoom.LoadOrder
import FeatLoom.Proofs.OrderedMap
import Mathlib.Data.Set.Finite.Basic
import Mathlib.Logic.Relation
import Mathlib.Order.WellFounded

/-!
# Dependencies between modules

The anchors that are there count as placed from the start, so only dependencies on other names can
keep a module from its place. A module is blocked when such dependencies lead from it to a cycle or
to a name that no module has. A blocked module depends on something that is never placed, and where
some modules wait for each other or for what is not there, all of them are blocked.
-/

namespace FeatLoom.LoadOrder

open Relation

def presentAnchors (modules : OrderedMap String Module) (anchors : List String) : List String :=
  anchors.eraseDups.filter modules.contains

def anchorModules (modules : OrderedMap String Module) (anchors : List String) : List Module :=
  (presentAnchors modules anchors).filterMap modules.get?

def free (modules : OrderedMap String Module) (anchors : List String) :
    OrderedMap String Module :=
  modules.filter fun name _ => name ∉ anchors

/-- Each module comes when all names that it depends on are placed. -/
def Respects : List String → List Module → Prop
  | _, [] => True
  | placed, m :: rest =>
    (∀ name ∈ m.dependencyNames, name ∈ placed) ∧ Respects (m.name.toList ++ placed) rest

/-- An order of the modules that are no anchors in which each comes after its dependencies. -/
structure IsValidOrder (modules : OrderedMap String Module) (anchors : List String)
    (order : List Module) : Prop where
  perm : order.Perm (free modules anchors).values
  respects : Respects (presentAnchors modules anchors) order

/-- A module that is no anchor depends on a name that is no anchor that is there. -/
def DependsOn (modules : OrderedMap String Module) (anchors : List String)
    (name dependency : String) : Prop :=
  dependency ∉ presentAnchors modules anchors ∧
    ∃ m, (free modules anchors).get? name = some m ∧ dependency ∈ m.dependencyNames

/-- A module that is no anchor, from which dependencies lead to a cycle or to a name that no module
has. -/
def IsBlocked (modules : OrderedMap String Module) (anchors : List String) (name : String) : Prop :=
  name ∈ (free modules anchors).keys ∧
    ∃ stop, ReflTransGen (DependsOn modules anchors) name stop ∧
      (stop ∉ modules.keys ∨ TransGen (DependsOn modules anchors) stop stop)

variable {modules : OrderedMap String Module} {anchors : List String}

theorem mem_presentAnchors (name : String) :
    name ∈ presentAnchors modules anchors ↔ name ∈ anchors ∧ name ∈ modules.keys := by
  rw [presentAnchors, List.mem_filter, List.mem_eraseDups, OrderedMap.contains_iff]

theorem mem_keys_free (name : String) :
    name ∈ (free modules anchors).keys ↔ name ∈ modules.keys ∧ name ∉ anchors := by
  simp [free, OrderedMap.keys, OrderedMap.filter]

theorem get?_free (name : String) :
    (free modules anchors).get? name = if name ∈ anchors then none else modules.get? name := by
  apply Option.ext
  intro m
  rw [OrderedMap.get?_eq_some_iff]
  by_cases isAnchor : name ∈ anchors <;>
    simp [free, OrderedMap.filter, isAnchor, OrderedMap.get?_eq_some_iff]

/-! ## What is blocked -/

/-- Dependencies lead from a blocked module to something else that cannot be placed. -/
theorem IsBlocked.exists_dependency {name : String} {m : Module}
    (blocked : IsBlocked modules anchors name)
    (listed : (free modules anchors).get? name = some m) :
    ∃ dependency ∈ m.dependencyNames, dependency ∉ presentAnchors modules anchors ∧
      (dependency ∉ modules.keys ∨ IsBlocked modules anchors dependency) := by
  -- The first step from `name`, and where the steps after it lead.
  have step : ∃ dependency, DependsOn modules anchors name dependency ∧
      ∃ stop, ReflTransGen (DependsOn modules anchors) dependency stop ∧
        (stop ∉ modules.keys ∨ TransGen (DependsOn modules anchors) stop stop) := by
    obtain ⟨isFree, stop, path, ending⟩ := blocked
    rcases ReflTransGen.cases_head path with same | ⟨dependency, depends, rest⟩
    · subst same
      rcases ending with missing | cycle
      · exact absurd ((mem_keys_free name).1 isFree).1 missing
      · obtain ⟨dependency, depends, rest⟩ := (TransGen.head'_iff).1 cycle
        exact ⟨dependency, depends, name, rest, Or.inr cycle⟩
    · exact ⟨dependency, depends, stop, rest, ending⟩
  obtain ⟨dependency, depends, stop, path, ending⟩ := step
  obtain ⟨notAnchor, other, listedOther, member⟩ := depends
  obtain rfl : other = m := Option.some.inj (listedOther.symm.trans listed)
  refine ⟨dependency, member, notAnchor, ?_⟩
  by_cases missing : dependency ∈ modules.keys
  · right
    refine ⟨(mem_keys_free dependency).2 ⟨missing, fun isAnchor => ?_⟩, stop, path, ending⟩
    exact notAnchor ((mem_presentAnchors dependency).2 ⟨isAnchor, missing⟩)
  · exact Or.inl missing

/-- Going on forever among finitely many things leads to a cycle. -/
theorem exists_cycle {α : Type} {step : α → α → Prop} {inside : Set α} (finite : inside.Finite)
    (nonempty : inside.Nonempty) (goesOn : ∀ a ∈ inside, ∃ b ∈ inside, step a b) :
    ∃ a ∈ inside, TransGen step a a := by
  by_contra acyclic
  push Not at acyclic
  have : Finite inside := finite
  let before (b a : inside) : Prop := TransGen step a.1 b.1
  have : IsTrans inside before := ⟨fun _ _ _ first second => second.trans first⟩
  have : Std.Irrefl before := ⟨fun a cycle => acyclic a.1 a.2 cycle⟩
  have wellFounded : WellFounded before := Finite.wellFounded_of_trans_of_irrefl before
  obtain ⟨start, member⟩ := nonempty
  obtain ⟨last, _, isLast⟩ := wellFounded.has_min Set.univ ⟨⟨start, member⟩, trivial⟩
  obtain ⟨next, inNext, follows⟩ := goesOn last.1 last.2
  exact isLast ⟨next, inNext⟩ trivial (TransGen.single follows)

/-- Modules each of which depends on another one of them or on a name that no module has are all
blocked. -/
theorem isBlocked_of_waiting {names : List String}
    (listed : ∀ name ∈ names, name ∈ (free modules anchors).keys)
    (waits : ∀ name ∈ names, ∃ dependency, DependsOn modules anchors name dependency ∧
      (dependency ∉ modules.keys ∨ dependency ∈ names)) :
    ∀ name ∈ names, IsBlocked modules anchors name := by
  intro name member
  by_contra unblocked
  let reached : Set String :=
    {other | other ∈ names ∧ ReflTransGen (DependsOn modules anchors) name other}
  have finite : reached.Finite := names.finite_toSet.subset fun _ inside => inside.1
  have goesOn : ∀ a ∈ reached, ∃ b ∈ reached, DependsOn modules anchors a b := by
    rintro a ⟨inNames, path⟩
    obtain ⟨b, depends, missing | inside⟩ := waits a inNames
    · exact absurd ⟨listed name member, b, path.tail depends, Or.inl missing⟩ unblocked
    · exact ⟨b, ⟨inside, path.tail depends⟩, depends⟩
  obtain ⟨stop, ⟨_, path⟩, cycle⟩ := exists_cycle finite ⟨name, member, .refl⟩ goesOn
  exact unblocked ⟨listed name member, stop, path, Or.inr cycle⟩

theorem Respects.not_isBlocked {placed : List String} {order : List Module}
    (respects : Respects placed order)
    (named : ∀ m ∈ order, ∃ name, m.name = some name ∧
      (free modules anchors).get? name = some m)
    (settled : ∀ name ∈ placed, name ∈ presentAnchors modules anchors ∨
      name ∈ modules.keys ∧ ¬ IsBlocked modules anchors name) :
    ∀ m ∈ order, ∀ name, m.name = some name → ¬ IsBlocked modules anchors name := by
  induction order generalizing placed with
  | nil => simp
  | cons first rest ih =>
    obtain ⟨ready, later⟩ := respects
    rw [List.forall_mem_cons] at named
    obtain ⟨⟨key, isKey, listed⟩, namedRest⟩ := named
    have unblocked : ¬ IsBlocked modules anchors key := by
      intro blocked
      obtain ⟨dependency, member, notAnchor, never⟩ := blocked.exists_dependency listed
      rcases settled dependency (ready dependency member) with isAnchor | ⟨there, possible⟩
      · exact notAnchor isAnchor
      · exact never.elim (fun missing => missing there) possible
    rw [List.forall_mem_cons]
    constructor
    · intro name same
      obtain rfl : key = name := Option.some.inj (isKey.symm.trans same)
      exact unblocked
    · refine ih later namedRest ?_
      intro name member
      rw [isKey] at member
      rcases List.mem_cons.1 member with rfl | before
      · refine Or.inr ⟨?_, unblocked⟩
        have isFree : name ∈ (free modules anchors).keys := by
          by_contra absent
          rw [← OrderedMap.get?_eq_none_iff, listed] at absent
          exact Option.some_ne_none _ absent
        exact ((mem_keys_free name).1 isFree).1
      · exact settled name before

end FeatLoom.LoadOrder
