import FeatLoom.Proofs.LoadOrder.Outcome

/-!
# What comes before a module

In the order of the modules all anchors come before a module that is no anchor, and so does every
module that a chain of dependencies leads to, as long as the chain passes no anchor on its way. An
anchor may depend on modules that come after it, which is why a chain cannot go on behind one.
-/

namespace FeatLoom.LoadOrder

open Relation

variable {modules : OrderedMap String Module} {anchors : List String}

def Needs (modules : OrderedMap String Module) (anchors : List String)
    (name dependency : String) : Prop :=
  ∃ m, (free modules anchors).get? name = some m ∧ dependency ∈ m.dependencyNames

/-- A name is that of an anchor, or a chain of dependencies leads to it from a module and through
modules that are no anchors. -/
def BuildsOn (modules : OrderedMap String Module) (anchors : List String)
    (name other : String) : Prop :=
  other ∈ anchors ∨ TransGen (Needs modules anchors) name other

theorem Needs.isFree {name dependency : String} (needs : Needs modules anchors name dependency) :
    name ∉ anchors := by
  intro isAnchor
  obtain ⟨m, listed, _⟩ := needs
  rw [get?_free, if_pos isAnchor] at listed
  cases listed

/-- A dependency of a module in an order has been placed at the start or comes before. -/
theorem Respects.mem_or_mem_before {placed : List String} {before after : List Module} {m : Module}
    (respects : Respects placed (before ++ m :: after)) {dependency : String}
    (depends : dependency ∈ m.dependencyNames) :
    dependency ∈ placed ∨ ∃ earlier ∈ before, earlier.name = some dependency := by
  induction before generalizing placed with
  | nil => exact Or.inl (respects.1 dependency depends)
  | cons first before ih =>
    rcases ih respects.2 with known | ⟨earlier, inBefore, named⟩
    · rcases List.mem_append.1 known with isFirst | known
      · exact Or.inr ⟨first, List.mem_cons_self, Option.mem_toList.1 isFirst⟩
      · exact Or.inl known
    · exact Or.inr ⟨earlier, List.mem_cons_of_mem first inBefore, named⟩

section Named

variable (named : ∀ entry ∈ modules.entries, entry.2.name = some entry.1)

include named

theorem get?_of_mem_values {m : Module} (member : m ∈ modules.values) {name : String}
    (isNamed : m.name = some name) : modules.get? name = some m := by
  obtain ⟨entry, inEntries, rfl⟩ := List.mem_map.1 member
  obtain rfl : entry.1 = name := Option.some.inj ((named entry inEntries).symm.trans isNamed)
  exact (modules.get?_eq_some_iff ..).2 inEntries

theorem IsValidOrder.mem_or_mem_before {order : List Module}
    (valid : IsValidOrder modules anchors order) {name other : String}
    (chain : TransGen (Needs modules anchors) name other) {before after : List Module} {m : Module}
    (split : order = before ++ m :: after) (isNamed : m.name = some name) :
    other ∈ presentAnchors modules anchors ∨ ∃ earlier ∈ before, earlier.name = some other := by
  -- One step leads to an anchor or before the module, whichever module the step starts at.
  have step {name dependency : String} {before after : List Module} {m : Module}
      (needs : Needs modules anchors name dependency) (split : order = before ++ m :: after)
      (isNamed : m.name = some name) : dependency ∈ presentAnchors modules anchors ∨
        ∃ earlier ∈ before, earlier.name = some dependency := by
    obtain ⟨m', listed, depends⟩ := needs
    have inOrder : m ∈ order := split ▸ List.mem_append_right before List.mem_cons_self
    have same := get?_of_mem_values (named_free named) (valid.perm.mem_iff.1 inOrder) isNamed
    obtain rfl : m' = m := Option.some.inj (listed.symm.trans same)
    exact (split ▸ valid.respects).mem_or_mem_before depends
  induction chain using TransGen.head_induction_on generalizing before after m with
  | single needs => exact step needs split isNamed
  | head needs rest ih =>
    rcases step needs split isNamed with isAnchor | ⟨earlier, inBefore, isNext⟩
    · -- A chain cannot go on behind an anchor.
      obtain ⟨next, further, _⟩ := TransGen.head'_iff.1 rest
      exact absurd ((mem_presentAnchors _).1 isAnchor).1 further.isFree
    · obtain ⟨first, between, rfl⟩ := List.append_of_mem inBefore
      have splitEarlier : order = first ++ earlier :: (between ++ m :: after) := by
        rw [split, List.append_assoc, List.cons_append]
      rcases ih splitEarlier isNext with isAnchor | ⟨found, inFirst, isOther⟩
      · exact Or.inl isAnchor
      · exact Or.inr ⟨found, List.mem_append_left _ inFirst, isOther⟩

theorem IsOrdered.mem_before {ordered before after : List Module}
    (isOrdered : IsOrdered modules anchors ordered) {m : Module}
    (split : ordered = before ++ m :: after) {name : String} (isNamed : m.name = some name)
    (isFree : name ∉ anchors) {other : String} {o : Module} (listed : modules.get? other = some o)
    (builds : BuildsOn modules anchors name other) : o ∈ before := by
  obtain ⟨order, valid, whole⟩ := isOrdered.split
  -- The anchors are all before `m`, so the list splits inside the order of the others.
  have notAnchor : m ∉ anchorModules modules anchors := by
    intro member
    have isAnchor : some name ∈ (presentAnchors modules anchors).map some := by
      rw [← map_name_anchorModules named, ← isNamed]
      exact List.mem_map_of_mem member
    obtain ⟨anchor, present, same⟩ := List.mem_map.1 isAnchor
    obtain rfl : anchor = name := Option.some.inj same
    exact isFree ((mem_presentAnchors anchor).1 present).1
  obtain ⟨between, rfl, splitOrder⟩ : ∃ between, before = anchorModules modules anchors ++ between ∧
      order = between ++ m :: after := by
    rcases List.append_eq_append_iff.1 (whole.symm.trans split) with
      ⟨between, anchorsFirst, rest⟩ | ⟨more, anchorsAfter, rest⟩
    · exact ⟨between, anchorsFirst, rest⟩
    · cases more with
      | nil => exact ⟨[], by simpa using anchorsAfter.symm, rest.symm⟩
      | cons first more =>
        obtain ⟨rfl, _⟩ := List.cons.inj rest
        refine absurd ?_ notAnchor
        rw [anchorsAfter]
        exact List.mem_append_right before List.mem_cons_self
  have ofAnchor (isAnchor : other ∈ presentAnchors modules anchors) :
      o ∈ anchorModules modules anchors ++ between :=
    List.mem_append_left _ (List.mem_filterMap.2 ⟨other, isAnchor, listed⟩)
  rcases builds with isAnchor | chain
  · exact ofAnchor ((mem_presentAnchors other).2 ⟨isAnchor, modules.mem_keys_of_get? listed⟩)
  · rcases valid.mem_or_mem_before named chain splitOrder isNamed with
      isAnchor | ⟨earlier, inBetween, isOther⟩
    · exact ofAnchor isAnchor
    · have inOrder : earlier ∈ order := splitOrder ▸ List.mem_append_left _ inBetween
      have free := get?_of_mem_values (named_free named) (valid.perm.mem_iff.1 inOrder) isOther
      rw [get?_free] at free
      split at free
      · cases free
      · obtain rfl : o = earlier := Option.some.inj (listed.symm.trans free)
        exact List.mem_append_right _ inBetween

end Named

end FeatLoom.LoadOrder
