import FeatLoom.Proofs.LoadOrder.Placement

/-!
# What ordering modules comes to

Where no module is blocked, ordering gives the anchors and then a valid order of the other modules.
Otherwise no valid order exists; then the blocked modules are reported with what they wait for, and
all others have been placed. Whether a module is blocked does not depend on the order in which the
modules or the anchors are given.
-/

namespace FeatLoom.LoadOrder

variable {modules : OrderedMap String Module} {anchors : List String}

/-- All modules once each: the anchors that are there, then a valid order of the others. -/
structure IsOrdered (modules : OrderedMap String Module) (anchors : List String)
    (ordered : List Module) : Prop where
  perm : ordered.Perm modules.values
  split : ∃ order, IsValidOrder modules anchors order ∧
    ordered = anchorModules modules anchors ++ order

/-- The blocked modules with those of their dependencies that are not placed, and the names of the
placed modules: the anchors that are there, then all modules that are not blocked. -/
structure IsStuck (modules : OrderedMap String Module) (anchors : List String)
    (waiting : List (String × List String)) (placed : List (Option String)) : Prop where
  nodup : (waiting.map Prod.fst).Nodup
  blocked : ∀ name, name ∈ waiting.map Prod.fst ↔ IsBlocked modules anchors name
  waits : ∀ entry ∈ waiting, entry.2 ≠ [] ∧ ∃ m, modules.get? entry.1 = some m ∧
    entry.2 = m.dependencyNames.filter fun name => some name ∉ placed
  rest : ∃ order : List Module,
    order.Perm ((free modules anchors).filter fun name _ => name ∉ waiting.map Prod.fst).values ∧
      Respects (presentAnchors modules anchors) order ∧
      placed = (anchorModules modules anchors ++ order).map fun m => m.name

theorem anchorModules_append_free_perm (modules : OrderedMap String Module)
    (anchors : List String) :
    (anchorModules modules anchors ++ (free modules anchors).values).Perm modules.values := by
  let taken := modules.filter fun name _ => name ∈ anchors
  have keys : (presentAnchors modules anchors).Perm taken.keys := by
    apply (List.perm_ext_iff_of_nodup _ taken.nodup_keys).2
    · intro name
      rw [mem_presentAnchors]
      simp [taken, OrderedMap.keys, OrderedMap.filter, and_comm]
    · exact (OrderedMap.nodup_eraseDups anchors).filter _
  have values : taken.keys.filterMap modules.get? = taken.values := by
    rw [OrderedMap.keys, OrderedMap.values, List.filterMap_map, ← List.filterMap_eq_map]
    apply List.filterMap_congr
    intro entry member
    exact (modules.get?_eq_some_iff entry.1 entry.2).2 (List.mem_of_mem_filter member)
  have anchorsPerm : (anchorModules modules anchors).Perm taken.values := by
    rw [← values]
    exact keys.filterMap _
  have parts := (List.filter_append_perm (fun entry : String × Module => decide (entry.1 ∈ anchors))
    modules.entries).map Prod.snd
  rw [List.map_append] at parts
  refine (anchorsPerm.append_right _).trans (List.Perm.trans ?_ parts)
  simp [taken, free, OrderedMap.filter, OrderedMap.values]

/-! ## Where placing ends -/

section Ended

variable {order left : List (String × Module)} {final : List String}
  (ending : Ending (presentAnchors modules anchors) (free modules anchors).entries order left final)

include ending

theorem Ending.mem_of_mem_order {entry : String × Module} (member : entry ∈ order) :
    entry ∈ (free modules anchors).entries :=
  ending.perm.mem_iff.1 (List.mem_append_left left member)

theorem Ending.mem_of_mem_left {entry : String × Module} (member : entry ∈ left) :
    entry ∈ (free modules anchors).entries :=
  ending.perm.mem_iff.1 (List.mem_append_right order member)

theorem Ending.exists_unplaced {entry : String × Module} (member : entry ∈ left) :
    ∃ dependency ∈ entry.2.dependencyNames, dependency ∉ final := by
  have unready := ending.unready entry member
  rw [Bool.eq_false_iff, ne_eq, isReady_iff] at unready
  push Not at unready
  exact unready

theorem Ending.mem_keys {name : String} (isFree : name ∈ (free modules anchors).keys) :
    name ∈ order.map Prod.fst ∨ name ∈ left.map Prod.fst := by
  have known := ((ending.perm.map Prod.fst).mem_iff (a := name)).2 isFree
  rwa [List.map_append, List.mem_append] at known

theorem Ending.isBlocked_of_mem_left :
    ∀ name ∈ left.map Prod.fst, IsBlocked modules anchors name := by
  apply isBlocked_of_waiting
  · intro name member
    obtain ⟨entry, inLeft, rfl⟩ := List.mem_map.1 member
    exact List.mem_map_of_mem (ending.mem_of_mem_left inLeft)
  · intro name member
    obtain ⟨⟨key, m⟩, inLeft, rfl⟩ := List.mem_map.1 member
    obtain ⟨dependency, depends, unplaced⟩ := ending.exists_unplaced inLeft
    rw [ending.mem_final, not_or] at unplaced
    have listed := (OrderedMap.get?_eq_some_iff ..).2 (ending.mem_of_mem_left inLeft)
    refine ⟨dependency, ⟨unplaced.2, m, listed, depends⟩, ?_⟩
    by_cases there : dependency ∈ modules.keys
    · right
      have isFree : dependency ∈ (free modules anchors).keys := by
        rw [mem_keys_free]
        exact ⟨there, fun isAnchor =>
          unplaced.2 ((mem_presentAnchors dependency).2 ⟨isAnchor, there⟩)⟩
      exact (ending.mem_keys isFree).resolve_left unplaced.1
    · exact Or.inl there

theorem Ending.keys_disjoint :
    (left.map Prod.fst).Nodup ∧ ∀ entry ∈ order, entry.1 ∉ left.map Prod.fst := by
  have distinct : ((order ++ left).map Prod.fst).Nodup :=
    (ending.perm.map Prod.fst).nodup_iff.2 (free modules anchors).nodup
  rw [List.map_append, List.nodup_append] at distinct
  exact ⟨distinct.2.1, fun entry member inLeft =>
    distinct.2.2 entry.1 (List.mem_map_of_mem member) entry.1 inLeft rfl⟩

theorem Ending.order_perm :
    (order.map Prod.snd).Perm
      ((free modules anchors).filter fun name _ => name ∉ left.map Prod.fst).values := by
  have kept : (order ++ left).filter (fun entry => decide (entry.1 ∉ left.map Prod.fst)) =
      order := by
    rw [List.filter_append, List.filter_eq_self.2, List.filter_eq_nil_iff.2, List.append_nil]
    · intro entry member
      simpa using List.mem_map_of_mem (f := Prod.fst) member
    · intro entry member
      simpa using ending.keys_disjoint.2 entry member
  have perm := ending.perm.filter fun entry => decide (entry.1 ∉ left.map Prod.fst)
  rw [kept] at perm
  exact perm.map Prod.snd

theorem Ending.isOrdered (none : left = []) :
    IsOrdered modules anchors (anchorModules modules anchors ++ order.map Prod.snd) := by
  subst none
  have perm : (order.map Prod.snd).Perm (free modules anchors).values := by
    rw [← List.append_nil order]
    exact ending.perm.map Prod.snd
  exact ⟨(perm.append_left _).trans (anchorModules_append_free_perm modules anchors),
    order.map Prod.snd, ⟨perm, ending.respects⟩, rfl⟩

end Ended

/-! ## Modules under their names -/

section Named

variable (named : ∀ entry ∈ modules.entries, entry.2.name = some entry.1)

include named

theorem named_free : ∀ entry ∈ (free modules anchors).entries, entry.2.name = some entry.1 :=
  fun entry member => named entry (List.mem_of_mem_filter member)

theorem map_name_anchorModules :
    (anchorModules modules anchors).map (fun m => m.name) =
      (presentAnchors modules anchors).map some := by
  rw [anchorModules, List.map_filterMap, ← List.filterMap_eq_map]
  apply List.filterMap_congr
  intro anchor member
  have there := ((mem_presentAnchors anchor).1 member).2
  rw [← not_not (a := anchor ∈ modules.keys), ← OrderedMap.get?_eq_none_iff] at there
  obtain ⟨m, listed⟩ := Option.ne_none_iff_exists'.1 there
  have isNamed := named (anchor, m) ((modules.get?_eq_some_iff anchor m).1 listed)
  rw [listed, Option.map_some, isNamed]
  rfl

theorem IsValidOrder.not_isBlocked {order : List Module}
    (valid : IsValidOrder modules anchors order) (name : String) :
    ¬ IsBlocked modules anchors name := by
  intro blocked
  have listed (m : Module) (member : m ∈ order) : ∃ key, m.name = some key ∧
      (free modules anchors).get? key = some m := by
    obtain ⟨entry, inFree, rfl⟩ := List.mem_map.1 (valid.perm.mem_iff.1 member)
    exact ⟨entry.1, named_free named entry inFree, (OrderedMap.get?_eq_some_iff ..).2 inFree⟩
  obtain ⟨⟨key, m⟩, inFree, rfl⟩ := List.mem_map.1 blocked.1
  have inOrder : m ∈ order := valid.perm.mem_iff.2 (List.mem_map_of_mem inFree)
  exact valid.respects.not_isBlocked listed (fun _ member => Or.inl member) m inOrder key
    (named_free named (key, m) inFree) blocked

section Ended

variable {order left : List (String × Module)} {final : List String}
  (ending : Ending (presentAnchors modules anchors) (free modules anchors).entries order left final)

include ending

theorem Ending.not_isBlocked_of_mem_order :
    ∀ entry ∈ order, ¬ IsBlocked modules anchors entry.1 := by
  intro entry member
  refine ending.respects.not_isBlocked ?_ (fun _ isAnchor => Or.inl isAnchor) entry.2
    (List.mem_map_of_mem member) entry.1 (named_free named entry (ending.mem_of_mem_order member))
  intro m inOrder
  obtain ⟨other, inOthers, rfl⟩ := List.mem_map.1 inOrder
  have inFree := ending.mem_of_mem_order inOthers
  exact ⟨other.1, named_free named other inFree, (OrderedMap.get?_eq_some_iff ..).2 inFree⟩

theorem Ending.isBlocked_iff (name : String) :
    IsBlocked modules anchors name ↔ name ∈ left.map Prod.fst := by
  constructor
  · intro blocked
    refine (ending.mem_keys blocked.1).resolve_left fun inOrder => ?_
    obtain ⟨entry, member, rfl⟩ := List.mem_map.1 inOrder
    exact ending.not_isBlocked_of_mem_order named entry member blocked
  · exact ending.isBlocked_of_mem_left name

theorem Ending.some_mem_placed_iff (name : String) :
    some name ∈ (anchorModules modules anchors ++ order.map Prod.snd).map (fun m => m.name) ↔
      name ∈ final := by
  have names : (order.map Prod.snd).map (fun m => m.name) = (order.map Prod.fst).map some := by
    rw [List.map_map, List.map_map]
    apply List.map_congr_left
    intro entry member
    exact named_free named entry (ending.mem_of_mem_order member)
  rw [List.map_append, map_name_anchorModules named, names, ← List.map_append,
    List.mem_map_of_injective (Option.some_injective _), List.mem_append, ending.mem_final, or_comm]

theorem Ending.isStuck :
    IsStuck modules anchors (left.map (waiting final))
      ((anchorModules modules anchors ++ order.map Prod.snd).map fun m => m.name) := by
  have keys : (left.map (waiting final)).map Prod.fst = left.map Prod.fst := by
    rw [List.map_map]
    rfl
  refine ⟨?_, ?_, ?_, order.map Prod.snd, ?_, ending.respects, rfl⟩
  · rw [keys]
    exact ending.keys_disjoint.1
  · intro name
    rw [keys, ending.isBlocked_iff named]
  · intro entry member
    obtain ⟨⟨key, m⟩, inLeft, rfl⟩ := List.mem_map.1 member
    have inFree := ending.mem_of_mem_left inLeft
    obtain ⟨dependency, depends, unplaced⟩ := ending.exists_unplaced inLeft
    refine ⟨List.ne_nil_of_mem (List.mem_filter.2 ⟨depends, by simpa using unplaced⟩), m,
      (OrderedMap.get?_eq_some_iff ..).2 (List.mem_of_mem_filter inFree), ?_⟩
    apply List.filter_congr
    intro name _
    simp only [ending.some_mem_placed_iff named name]
    simp
  · rw [keys]
    exact ending.order_perm

end Ended

theorem loadOrder_eq_outcome :
    ∃ order left final,
      Ending (presentAnchors modules anchors) (free modules anchors).entries order left final ∧
        loadOrder modules anchors =
          outcome (anchorModules modules anchors ++ order.map Prod.snd) left final := by
  rw [loadOrder, placeAnchors_eq]
  exact arrange_eq_outcome _ _ _ (named_free named)

/-- Either no module is blocked and ordering succeeds, or one is and ordering fails. -/
theorem loadOrder_cases :
    (∀ name, ¬ IsBlocked modules anchors name) ∧
        (∃ ordered, loadOrder modules anchors = .ok ordered ∧
          IsOrdered modules anchors ordered) ∨
      (∃ name, IsBlocked modules anchors name) ∧
        ∃ waiting placed, loadOrder modules anchors = .error (.unresolved waiting placed) ∧
          IsStuck modules anchors waiting placed := by
  obtain ⟨order, left, final, ending, result⟩ := loadOrder_eq_outcome named
  cases left with
  | nil =>
    refine Or.inl ⟨fun name blocked => ?_, _, result, ending.isOrdered rfl⟩
    exact List.not_mem_nil ((ending.isBlocked_iff named name).1 blocked)
  | cons entry rest =>
    have blocked := ending.isBlocked_of_mem_left entry.1 List.mem_cons_self
    exact Or.inr ⟨⟨entry.1, blocked⟩, _, _, result, ending.isStuck named⟩

theorem exists_loadOrder_eq_ok_iff :
    (∃ ordered, loadOrder modules anchors = .ok ordered) ↔
      ∀ name, ¬ IsBlocked modules anchors name := by
  rcases loadOrder_cases named with
    ⟨unblocked, ordered, result, _⟩ | ⟨⟨name, blocked⟩, _, _, result, _⟩
  · exact ⟨fun _ => unblocked, fun _ => ⟨ordered, result⟩⟩
  · constructor
    · rintro ⟨ordered, ok⟩
      rw [result] at ok
      contradiction
    · intro unblocked
      exact absurd blocked (unblocked name)

theorem isOrdered_of_loadOrder {ordered : List Module}
    (ok : loadOrder modules anchors = .ok ordered) : IsOrdered modules anchors ordered := by
  rcases loadOrder_cases named with
    ⟨_, other, result, isOrdered⟩ | ⟨_, _, _, result, _⟩
  · rw [result] at ok
    exact Except.ok.inj ok ▸ isOrdered
  · rw [result] at ok
    contradiction

theorem isStuck_of_loadOrder {fault : LoadOrderError}
    (failed : loadOrder modules anchors = .error fault) :
    ∃ waiting placed, fault = .unresolved waiting placed ∧
      IsStuck modules anchors waiting placed := by
  rcases loadOrder_cases named with
    ⟨_, _, result, _⟩ | ⟨_, waiting, placed, result, isStuck⟩
  · rw [result] at failed
    contradiction
  · rw [result] at failed
    exact ⟨waiting, placed, (Except.error.inj failed).symm, isStuck⟩

end Named

/-! ## The order of modules and anchors -/

theorem isBlocked_congr {others : OrderedMap String Module} {otherAnchors : List String}
    (sameModules : others.entries.Perm modules.entries)
    (sameAnchors : ∀ name, name ∈ otherAnchors ↔ name ∈ anchors) (name : String) :
    IsBlocked others otherAnchors name ↔ IsBlocked modules anchors name := by
  have keys (name : String) : name ∈ others.keys ↔ name ∈ modules.keys :=
    (sameModules.map Prod.fst).mem_iff
  have listed (name : String) : (free others otherAnchors).get? name =
      (free modules anchors).get? name := by
    apply Option.ext
    intro m
    rw [OrderedMap.get?_eq_some_iff, OrderedMap.get?_eq_some_iff]
    simp [free, OrderedMap.filter, sameModules.mem_iff, sameAnchors]
  have depends : DependsOn others otherAnchors = DependsOn modules anchors := by
    funext name dependency
    simp only [DependsOn, mem_presentAnchors, keys, sameAnchors, listed]
  simp only [IsBlocked, depends, mem_keys_free, keys, sameAnchors]

/-- Ordering gives all modules, anchors first and the others in a valid order, exactly where a valid
order exists. Otherwise it reports the blocked modules with what they wait for, and has placed all
others. Success and the reported modules do not depend on the order of modules and anchors. -/
theorem loadOrder_sound_complete (modules : OrderedMap String Module) (anchors : List String)
    (named : ∀ entry ∈ modules.entries, entry.2.name = some entry.1) :
    ((∃ ordered, loadOrder modules anchors = .ok ordered) ↔
        ∃ order, IsValidOrder modules anchors order) ∧
      (∀ ordered, loadOrder modules anchors = .ok ordered → IsOrdered modules anchors ordered) ∧
      (∀ fault, loadOrder modules anchors = .error fault →
        ∃ waiting placed, fault = .unresolved waiting placed ∧
          IsStuck modules anchors waiting placed) ∧
      ∀ (others : OrderedMap String Module) (otherAnchors : List String),
        others.entries.Perm modules.entries →
        (∀ name, name ∈ otherAnchors ↔ name ∈ anchors) →
        ((∃ ordered, loadOrder others otherAnchors = .ok ordered) ↔
            ∃ ordered, loadOrder modules anchors = .ok ordered) ∧
          ∀ waiting placed waiting' placed',
            loadOrder modules anchors = .error (.unresolved waiting placed) →
            loadOrder others otherAnchors = .error (.unresolved waiting' placed') →
            ∀ name, name ∈ waiting'.map Prod.fst ↔ name ∈ waiting.map Prod.fst := by
  refine ⟨?_, ?_, ?_, ?_⟩
  · constructor
    · rintro ⟨ordered, ok⟩
      obtain ⟨order, valid, _⟩ := (isOrdered_of_loadOrder named ok).split
      exact ⟨order, valid⟩
    · rintro ⟨order, valid⟩
      exact (exists_loadOrder_eq_ok_iff named).2 (valid.not_isBlocked named)
  · intro ordered ok
    exact isOrdered_of_loadOrder named ok
  · intro fault failed
    exact isStuck_of_loadOrder named failed
  · intro others otherAnchors sameModules sameAnchors
    have namedOthers : ∀ entry ∈ others.entries, entry.2.name = some entry.1 :=
      fun entry member => named entry (sameModules.mem_iff.1 member)
    have blocked := isBlocked_congr sameModules sameAnchors
    constructor
    · rw [exists_loadOrder_eq_ok_iff named, exists_loadOrder_eq_ok_iff namedOthers]
      simp only [blocked]
    · intro waiting placed waiting' placed' failed failedOthers name
      obtain ⟨_, _, same, isStuck⟩ := isStuck_of_loadOrder named failed
      obtain ⟨_, _, sameOthers, isStuckOthers⟩ := isStuck_of_loadOrder namedOthers failedOthers
      cases same
      cases sameOthers
      rw [isStuck.blocked, isStuckOthers.blocked, blocked]

/-- An anchor may depend on what comes after it, and a module may be listed before what it needs. -/
theorem loadOrder_sound_complete_anchored :
    let needing (name : String) (needed : List String) : Module :=
      { name := some name, dependencies := needed.map fun other => { name := some other } }
    let modules : OrderedMap String Module := OrderedMap.ofList
      [("Late", needing "Late" ["Early", "Shared"]), ("Shared", needing "Shared" ["Late"]),
        ("Early", needing "Early" [])]
    (∀ entry ∈ modules.entries, entry.2.name = some entry.1) ∧
      ∃ ordered, loadOrder modules ["SharedDev", "Shared"] = .ok ordered := by
  intro needing modules
  have named : ∀ entry ∈ modules.entries, entry.2.name = some entry.1 := by decide
  refine ⟨named, (loadOrder_sound_complete modules ["SharedDev", "Shared"] named).1.2 ?_⟩
  refine ⟨[needing "Early" [], needing "Late" ["Early", "Shared"]], List.Perm.swap _ _ _, ?_⟩
  exact ⟨by decide, by decide, trivial⟩

end FeatLoom.LoadOrder
