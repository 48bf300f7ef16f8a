import FeatLoom.Proofs.LoadOrder.Outcome

/-!
# The least valid order

Modules are compared by their position among all modules that are given. Placing takes the first
ready module each time, and whatever another valid order begins with is ready as well. So at the
first place where the two differ the other order has a later module.
-/

namespace FeatLoom.LoadOrder

def position (modules : OrderedMap String Module) (m : Module) : Nat := modules.values.idxOf m

theorem pairwise_idxOf_lt {α : Type} [BEq α] [LawfulBEq α] {items : List α}
    (distinct : items.Nodup) : items.Pairwise fun a b => items.idxOf a < items.idxOf b := by
  rw [List.pairwise_iff_getElem]
  intro i j inside within before
  rwa [distinct.idxOf_getElem i inside, distinct.idxOf_getElem j within]

section Placing

variable {rank : Module → Nat} {ordered result : List Module} {names : List String}
  {remaining : List (String × Module)}

/-- What comes first in a valid order is ready, so the first ready module does not come after it. -/
theorem eq_or_rank_lt_of_takeReady? {key : String} {m first : Module}
    {rest : List (String × Module)} {others : List Module}
    (taken : takeReady? names remaining = some ((key, m), rest))
    (sorted : (remaining.map Prod.snd).Pairwise fun a b => rank a < rank b)
    (perm : (first :: others).Perm (remaining.map Prod.snd))
    (respects : Respects names (first :: others)) :
    first = m ∧ others.Perm (rest.map Prod.snd) ∨ rank m < rank first := by
  obtain ⟨_, before, after, rfl, rfl, unready⟩ := takeReady?_eq_some taken
  have ready : isReady names first = true := (isReady_iff names first).2 respects.1
  have member : first ∈ before.map Prod.snd ++ m :: after.map Prod.snd := by
    simpa using perm.mem_iff.1 List.mem_cons_self
  rw [List.mem_append, List.mem_cons] at member
  rcases member with inBefore | same | inAfter
  · obtain ⟨entry, inside, rfl⟩ := List.mem_map.1 inBefore
    exact absurd ready (by simp [unready entry inside])
  · subst same
    have front : (first :: others).Perm (first :: (before ++ after).map Prod.snd) := by
      simpa using perm.trans (List.perm_middle.map Prod.snd)
    exact Or.inl ⟨rfl, front.cons_inv⟩
  · right
    rw [List.map_append, List.pairwise_append] at sorted
    exact (List.pairwise_cons.1 sorted.2.1).1 first inAfter

theorem sublist_of_takeReady? {entry : String × Module} {rest : List (String × Module)}
    (taken : takeReady? names remaining = some (entry, rest)) : rest.Sublist remaining := by
  obtain ⟨_, before, after, rfl, rfl, _⟩ := takeReady?_eq_some taken
  exact (List.sublist_cons_self entry after).append_left before

/-- Placing that succeeds gives the least of all orders that respect the dependencies. -/
theorem arrange_least (named : ∀ entry ∈ remaining, entry.2.name = some entry.1)
    (sorted : (remaining.map Prod.snd).Pairwise fun a b => rank a < rank b)
    (ok : arrange ordered names remaining = .ok result) :
    ∃ order, result = ordered ++ order ∧
      ∀ other : List Module, other.Perm (remaining.map Prod.snd) → Respects names other →
        other ≠ order → order.map rank < other.map rank := by
  fun_induction arrange ordered names remaining with
  | case1 ordered names remaining key m rest taken same ih =>
    have kept := sublist_of_takeReady? taken
    obtain ⟨order, rfl, least⟩ := ih (fun entry member => named entry (kept.subset member))
      (sorted.sublist (kept.map Prod.snd)) ok
    refine ⟨m :: order, by simp, ?_⟩
    intro other perm respects different
    cases other with
    | nil =>
      obtain ⟨_, before, after, rfl, _, _⟩ := takeReady?_eq_some taken
      simpa using perm.length_eq
    | cons first others =>
      simp only [List.map_cons, List.cons_lt_cons_iff]
      rcases eq_or_rank_lt_of_takeReady? taken sorted perm respects with ⟨rfl, rest⟩ | later
      · right
        have respectsRest : Respects (key :: names) others := by
          simpa [same] using respects.2
        exact ⟨rfl, least others rest respectsRest fun equal => different (by rw [equal])⟩
      · exact Or.inl later
  | case2 => cases ok
  | case3 ordered names remaining none empty =>
    obtain rfl := Except.ok.inj ok
    refine ⟨[], by simp, ?_⟩
    intro other perm _ different
    simp [List.isEmpty_iff.1 empty] at perm
    exact absurd perm different
  | case4 => cases ok

/-- Modules that respect their dependencies as they are listed stay in this order. -/
theorem arrange_of_respects (named : ∀ entry ∈ remaining, entry.2.name = some entry.1)
    (respects : Respects names (remaining.map Prod.snd)) :
    arrange ordered names remaining = .ok (ordered ++ remaining.map Prod.snd) := by
  induction remaining generalizing ordered names with
  | nil => simp [arrange, takeReady?]
  | cons entry rest ih =>
    obtain ⟨key, m⟩ := entry
    obtain ⟨isNamed, namedRest⟩ := List.forall_mem_cons.1 named
    obtain ⟨ready, later⟩ := respects
    have isNamed : m.name = some key := isNamed
    have taken : takeReady? names ((key, m) :: rest) = some ((key, m), rest) := by
      rw [takeReady?, if_pos ((isReady_iff names m).2 ready)]
    have laterRest : Respects (key :: names) (rest.map Prod.snd) := by
      simpa [isNamed] using later
    calc arrange ordered names ((key, m) :: rest)
        = arrange (ordered ++ [m]) (key :: names) rest := by
          rw [arrange, taken]
          simp [isNamed]
      _ = .ok (ordered ++ ((key, m) :: rest).map Prod.snd) := by
          rw [ih namedRest laterRest]
          simp

end Placing

section Named

variable {modules : OrderedMap String Module} {anchors : List String}
  (named : ∀ entry ∈ modules.entries, entry.2.name = some entry.1)

include named

theorem nodup_values : modules.values.Nodup := by
  have names : modules.values.map (fun m => m.name) = modules.keys.map some := by
    simp only [OrderedMap.values, OrderedMap.keys, List.map_map]
    exact List.map_congr_left named
  have distinct : (modules.values.map fun m => m.name).Nodup := by
    rw [names]
    exact modules.nodup_keys.map (Option.some_injective String)
  exact distinct.of_map _

theorem values_free_pairwise :
    (free modules anchors).values.Pairwise fun a b => position modules a < position modules b :=
  (pairwise_idxOf_lt (nodup_values named)).sublist (List.filter_sublist.map Prod.snd)

end Named

/-- Ordering that succeeds gives, behind the anchors, the valid order that is lexicographically
least by the positions of the modules. Modules that are listed in a valid order stay in it. -/
theorem loadOrder_least (modules : OrderedMap String Module) (anchors : List String)
    (named : ∀ entry ∈ modules.entries, entry.2.name = some entry.1) (ordered : List Module)
    (ok : loadOrder modules anchors = .ok ordered) :
    ∃ order, ordered = anchorModules modules anchors ++ order ∧
      IsValidOrder modules anchors order ∧
      (∀ other, IsValidOrder modules anchors other → other ≠ order →
        order.map (position modules) < other.map (position modules)) ∧
      (Respects (presentAnchors modules anchors) (free modules anchors).values →
        order = (free modules anchors).values) := by
  obtain ⟨order, valid, rfl⟩ := (isOrdered_of_loadOrder named ok).split
  rw [loadOrder, placeAnchors_eq] at ok
  refine ⟨order, rfl, valid, ?_, fun respects => ?_⟩
  · intro other validOther different
    obtain ⟨least, same, isLeast⟩ :=
      arrange_least (named_free named) (values_free_pairwise named) ok
    obtain rfl : order = least := List.append_cancel_left same
    exact isLeast other validOther.perm validOther.respects different
  · have unchanged := ok.symm.trans (arrange_of_respects (named_free named) respects)
    exact List.append_cancel_left (Except.ok.inj unchanged)

/-- A module that waits for a late one jumps ahead of the modules behind it as soon as it is
ready, and the anchor in between does not count. -/
theorem loadOrder_least_late :
    let needing (name : String) (needed : List String) : Module :=
      { name := some name, dependencies := needed.map fun other => { name := some other } }
    let waiting := needing "Waiting" ["Late", "Shared"]
    let shared := needing "Shared" ["Last"]
    let early := needing "Early" []
    let late := needing "Late" ["Early"]
    let last := needing "Last" []
    let modules : OrderedMap String Module := OrderedMap.ofList [("Waiting", waiting),
      ("Shared", shared), ("Early", early), ("Late", late), ("Last", last)]
    (∀ entry ∈ modules.entries, entry.2.name = some entry.1) ∧
      loadOrder modules ["Shared"] = .ok [shared, early, late, waiting, last] ∧
      ∃ order, [shared, early, late, waiting, last] = anchorModules modules ["Shared"] ++ order ∧
        IsValidOrder modules ["Shared"] order ∧
        (∀ other, IsValidOrder modules ["Shared"] other → other ≠ order →
          order.map (position modules) < other.map (position modules)) ∧
        (Respects (presentAnchors modules ["Shared"]) (free modules ["Shared"]).values →
          order = (free modules ["Shared"]).values) := by
  intro needing waiting shared early late last modules
  have named : ∀ entry ∈ modules.entries, entry.2.name = some entry.1 := by decide
  have ok : loadOrder modules ["Shared"] = .ok [shared, early, late, waiting, last] := by
    decide +kernel
  exact ⟨named, ok, loadOrder_least modules ["Shared"] named _ ok⟩

end FeatLoom.LoadOrder
