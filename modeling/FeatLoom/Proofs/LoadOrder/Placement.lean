import FeatLoom.Proofs.LoadOrder.Dependency

/-!
# Placing modules

First the anchors that are there are placed, and the others remain. Then ready modules are placed
until none is left that is ready. What is placed respects the dependencies, what is left waits for
names that are not placed, and so exactly the blocked modules are left.
-/

namespace FeatLoom.LoadOrder

variable {modules : OrderedMap String Module} {anchors : List String}

/-! ## Anchors -/

theorem presentAnchors_concat (anchor : String) :
    presentAnchors modules (anchors ++ [anchor]) =
      presentAnchors modules anchors ++
        if anchor ∈ (free modules anchors).keys then [anchor] else [] := by
  rw [presentAnchors, OrderedMap.eraseDups_concat]
  by_cases known : anchor ∈ anchors
  · simp [presentAnchors, known, mem_keys_free]
  · rw [if_neg known, List.filter_append]
    by_cases there : modules.contains anchor = true
    · simp [presentAnchors, known, there, mem_keys_free, (OrderedMap.contains_iff ..).1 there]
    · have absent : anchor ∉ modules.keys := fun member =>
        there ((OrderedMap.contains_iff ..).2 member)
      simp [presentAnchors, there, mem_keys_free, absent]

theorem free_concat_of_absent {anchor : String} (absent : anchor ∉ (free modules anchors).keys) :
    free modules (anchors ++ [anchor]) = free modules anchors := by
  apply OrderedMap.ext
  apply List.filter_congr
  intro entry member
  have there : entry.1 ∈ modules.keys := List.mem_map_of_mem member
  rw [mem_keys_free] at absent
  by_cases known : entry.1 ∈ anchors
  · simp [known]
  · have different : entry.1 ≠ anchor := fun same => absent (same ▸ ⟨there, known⟩)
    simp [known, different]

theorem erase_free (anchor : String) :
    (free modules anchors).erase anchor = free modules (anchors ++ [anchor]) := by
  apply OrderedMap.ext
  simp only [OrderedMap.erase, free, OrderedMap.filter, List.filter_filter]
  apply List.filter_congr
  intro entry _
  by_cases known : entry.1 ∈ anchors <;> by_cases same : entry.1 = anchor <;> simp [known, same]

/-- Exactly the anchors that are there have been placed, and all other modules remain. -/
theorem placeAnchors_eq (modules : OrderedMap String Module) (anchors : List String) :
    placeAnchors modules anchors =
      ⟨anchorModules modules anchors, presentAnchors modules anchors, free modules anchors⟩ := by
  induction anchors using List.reverseRecOn with
  | nil =>
    have all : free modules [] = modules := OrderedMap.ext (List.filter_eq_self.2 (by simp))
    rw [all]
    rfl
  | append_singleton anchors anchor ih =>
    have found : (free modules anchors).get? anchor ≠ none ↔
        anchor ∈ (free modules anchors).keys := by
      rw [ne_eq, OrderedMap.get?_eq_none_iff, not_not]
    rw [placeAnchors, List.foldl_append, ← placeAnchors, ih, List.foldl_cons, List.foldl_nil,
      Placement.anchor, anchorModules, anchorModules, presentAnchors_concat]
    split
    · next absent =>
      have missing : anchor ∉ (free modules anchors).keys := fun member => found.2 member absent
      rw [if_neg missing, List.append_nil, free_concat_of_absent missing]
    · next m present =>
      have member : anchor ∈ (free modules anchors).keys :=
        found.1 fun absent => Option.some_ne_none m (present.symm.trans absent)
      have listed : modules.get? anchor = some m := by
        rwa [get?_free, if_neg ((mem_keys_free anchor).1 member).2] at present
      simp only [if_pos member, List.filterMap_append, List.filterMap_cons, listed,
        List.filterMap_nil, erase_free]

/-! ## Ready modules -/

theorem isReady_iff (names : List String) (m : Module) :
    isReady names m = true ↔ ∀ name ∈ m.dependencyNames, name ∈ names := by
  simp [isReady]

theorem takeReady?_eq_some {names : List String} {entries rest : List (String × Module)}
    {entry : String × Module} (taken : takeReady? names entries = some (entry, rest)) :
    isReady names entry.2 = true ∧ ∃ before after, entries = before ++ entry :: after ∧
      rest = before ++ after ∧ ∀ other ∈ before, isReady names other.2 = false := by
  induction entries generalizing rest with
  | nil => simp [takeReady?] at taken
  | cons first others ih =>
    rw [takeReady?] at taken
    split at taken
    · next ready =>
      obtain ⟨rfl, rfl⟩ := Prod.mk.inj (Option.some.inj taken)
      exact ⟨ready, [], others, rfl, rfl, by simp⟩
    · next unready =>
      obtain ⟨⟨found, left⟩, more, same⟩ := Option.map_eq_some_iff.1 taken
      obtain ⟨rfl, rfl⟩ := Prod.mk.inj same
      obtain ⟨ready, before, after, rfl, rfl, waiting⟩ := ih more
      refine ⟨ready, first :: before, after, rfl, rfl, ?_⟩
      rw [List.forall_mem_cons]
      exact ⟨Bool.eq_false_iff.2 unready, waiting⟩

theorem takeReady?_eq_none {names : List String} {entries : List (String × Module)}
    (none : takeReady? names entries = none) :
    ∀ entry ∈ entries, isReady names entry.2 = false := by
  induction entries with
  | nil => simp
  | cons first others ih =>
    rw [takeReady?] at none
    split at none
    · exact absurd none (Option.some_ne_none _)
    · next unready =>
      rw [List.forall_mem_cons]
      exact ⟨Bool.eq_false_iff.2 unready, ih (Option.map_eq_none_iff.1 none)⟩

/-- How placing ends: some entries have been placed one after the other, and those that are left
are not ready. -/
structure Ending (names : List String) (remaining order left : List (String × Module))
    (final : List String) : Prop where
  perm : (order ++ left).Perm remaining
  respects : Respects names (order.map Prod.snd)
  mem_final : ∀ name, name ∈ final ↔ name ∈ order.map Prod.fst ∨ name ∈ names
  unready : ∀ entry ∈ left, isReady final entry.2 = false

def outcome (ordered : List Module) (left : List (String × Module)) (final : List String) :
    Except LoadOrderError (List Module) :=
  if left.isEmpty then .ok ordered
  else .error (.unresolved (left.map (waiting final)) (ordered.map fun m => m.name))

theorem arrange_eq_outcome (ordered : List Module) (names : List String)
    (remaining : List (String × Module))
    (named : ∀ entry ∈ remaining, entry.2.name = some entry.1) :
    ∃ order left final, Ending names remaining order left final ∧
      arrange ordered names remaining = outcome (ordered ++ order.map Prod.snd) left final := by
  fun_induction arrange ordered names remaining with
  | case1 ordered names remaining key m rest taken same ih =>
    obtain ⟨ready, before, after, rfl, rfl, _⟩ := takeReady?_eq_some taken
    have perm : (before ++ (key, m) :: after).Perm ((key, m) :: (before ++ after)) :=
      List.perm_middle
    obtain ⟨order, left, final, ending, result⟩ := ih fun entry member =>
      named entry (perm.mem_iff.2 (List.mem_cons_of_mem _ member))
    refine ⟨(key, m) :: order, left, final, ⟨?_, ?_, ?_, ending.unready⟩, ?_⟩
    · exact (ending.perm.cons (key, m)).trans perm.symm
    · refine ⟨(isReady_iff names m).1 ready, ?_⟩
      rw [same]
      exact ending.respects
    · intro name
      rw [ending.mem_final, List.map_cons, List.mem_cons, List.mem_cons]
      tauto
    · rw [result]
      simp
  | case2 ordered names remaining key m rest taken misnamed =>
    obtain ⟨_, before, after, rfl, _, _⟩ := takeReady?_eq_some taken
    exact absurd (named (key, m) (by simp)) misnamed
  | case3 ordered names remaining none empty =>
    refine ⟨[], [], names, ⟨?_, trivial, by simp, by simp⟩, by simp [outcome]⟩
    rw [List.isEmpty_iff.1 empty]
    exact List.Perm.refl _
  | case4 ordered names remaining none waits =>
    refine ⟨[], remaining, names, ⟨List.Perm.refl _, trivial, by simp,
      takeReady?_eq_none none⟩, ?_⟩
    simp [outcome, waits]

end FeatLoom.LoadOrder
