import FeatLoom.Proofs.OrderedMap

/-!
# Gathering what lists hold

Every item of a map of lists gives something. What all items give together is known up to order
when items are appended, and it stays as it is when items that give nothing are taken out.
-/

namespace FeatLoom.OrderedMap

universe u v w

variable {κ : Type u} {ν : Type v} {β : Type w}

def gather (each : κ → ν → List β) (m : OrderedMap κ (List ν)) : List β :=
  m.entries.flatMap fun entry => entry.2.flatMap (each entry.1)

theorem gather_congr {each other : κ → ν → List β} (m : OrderedMap κ (List ν))
    (same : ∀ key, ∀ item ∈ m.gather (fun _ item => [item]), each key item = other key item) :
    m.gather each = m.gather other := by
  apply List.flatMap_congr
  intro entry member
  apply List.flatMap_congr
  intro item inside
  apply same
  have listed : item ∈ entry.2.flatMap fun item => [item] :=
    List.mem_flatMap.2 ⟨item, inside, List.mem_singleton_self item⟩
  exact List.mem_flatMap.2 ⟨entry, member, listed⟩

theorem itemCount_eq (m : OrderedMap κ (List ν)) :
    m.itemCount = (m.gather fun _ item => [item]).length := by
  rw [itemCount, values, List.foldr_map, gather]
  simp only [List.flatMap_singleton']
  induction m.entries with
  | nil => rfl
  | cons entry entries ih =>
    rw [List.foldr_cons, List.flatMap_cons, List.length_append, ih]

theorem flatMap_filter {keep : β → Bool} {each : β → List ν} {items : List β}
    (nothing : ∀ item ∈ items, keep item = false → each item = []) :
    (items.filter keep).flatMap each = items.flatMap each := by
  induction items with
  | nil => rfl
  | cons item items ih =>
    rw [List.forall_mem_cons] at nothing
    cases kept : keep item with
    | true =>
      rw [List.filter_cons_of_pos kept, List.flatMap_cons, List.flatMap_cons, ih nothing.2]
    | false =>
      rw [List.filter_cons_of_neg (by simp [kept]), List.flatMap_cons, nothing.1 kept,
        ih nothing.2, List.nil_append]

/-- Taking out items that give nothing, and then the lists that are left without items, changes
nothing in what is gathered. -/
theorem gather_filter_nonempty {each : κ → ν → List β} {keep : ν → Bool}
    (m : OrderedMap κ (List ν)) (nothing : ∀ key item, keep item = false → each key item = []) :
    ((m.mapValues fun _ items => items.filter keep).filter fun _ items => !items.isEmpty).gather
      each = m.gather each := by
  rw [gather, OrderedMap.filter, flatMap_filter, mapValues, List.flatMap_map, gather]
  · apply List.flatMap_congr
    intro entry _
    exact flatMap_filter fun item _ dropped => nothing entry.1 item dropped
  · intro entry _ dropped
    have empty : entry.2 = [] := by simpa using dropped
    rw [empty, List.flatMap_nil]

theorem gather_filter_subset {each : κ → ν → List β} {keep : ν → Bool}
    (m : OrderedMap κ (List ν)) :
    ((m.mapValues fun _ items => items.filter keep).filter fun _ items => !items.isEmpty).gather
      each ⊆ m.gather each := by
  intro given member
  obtain ⟨_, inFiltered, inKept⟩ := List.mem_flatMap.1 member
  obtain ⟨entry, inEntries, rfl⟩ := List.mem_map.1 (List.mem_of_mem_filter inFiltered)
  obtain ⟨item, kept, inside⟩ := List.mem_flatMap.1 inKept
  have listed : given ∈ entry.2.flatMap (each entry.1) :=
    List.mem_flatMap.2 ⟨item, List.mem_of_mem_filter kept, inside⟩
  exact List.mem_flatMap.2 ⟨entry, inEntries, listed⟩

section Appending

variable [DecidableEq κ]

theorem flatMap_place_perm (each : κ → ν → List β) (key : κ) (added : List ν)
    (entries : List (κ × List ν)) :
    ((place key (fun present => present.getD [] ++ added) entries).flatMap
        fun entry => entry.2.flatMap (each entry.1)).Perm
      ((entries.flatMap fun entry => entry.2.flatMap (each entry.1)) ++
        added.flatMap (each key)) := by
  induction entries with
  | nil => simp [place]
  | cons entry rest ih =>
    obtain ⟨k, items⟩ := entry
    by_cases same : k = key
    · subst same
      simp only [place, if_pos, Option.getD_some, List.flatMap_cons, List.flatMap_append,
        List.append_assoc]
      exact List.perm_append_comm.append_left _
    · simp only [place, if_neg same, List.flatMap_cons, List.append_assoc]
      exact ih.append_left _

/-- Appending items to one of the lists adds what these items give. -/
theorem gather_alter_perm (each : κ → ν → List β) (m : OrderedMap κ (List ν)) (key : κ)
    (added : List ν) :
    ((m.alter key fun present => present.getD [] ++ added).gather each).Perm
      (m.gather each ++ added.flatMap (each key)) :=
  flatMap_place_perm each key added m.entries

theorem gather_appendAll_perm (each : κ → ν → List β) (m : OrderedMap κ (List ν))
    (items : List (κ × ν)) :
    ((m.appendAll items).gather each).Perm
      (m.gather each ++ items.flatMap fun item => each item.1 item.2) := by
  rw [appendAll_eq_foldl]
  induction items generalizing m with
  | nil => simp
  | cons item items ih =>
    have one := m.gather_alter_perm each item.1 [item.2]
    rw [List.flatMap_singleton] at one
    rw [List.foldl_cons, List.flatMap_cons, ← List.append_assoc]
    exact (ih (m.append item)).trans (one.append_right _)

end Appending

end FeatLoom.OrderedMap
