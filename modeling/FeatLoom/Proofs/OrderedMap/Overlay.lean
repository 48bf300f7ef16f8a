import FeatLoom.MergePolicy
import FeatLoom.Proofs.OrderedMap

/-!
# Maps written over each other

When maps are written over each other one after the other, the last one that has a key decides what
is found there, and the keys stay in the order in which they came up first. For maps of maps the
same holds of the inner keys of each outer key. On both levels it does not matter which of the maps
are put together first, and a map written over itself stays as it is.
-/

namespace FeatLoom.OrderedMap

universe u v w

variable {κ : Type u} {ν : Type v} {μ : Type w} [DecidableEq κ]

theorem eraseDups_eq_self {keys : List κ} (distinct : keys.Nodup) : keys.eraseDups = keys := by
  induction keys using List.reverseRecOn with
  | nil => rfl
  | append_singleton keys key ih =>
    have fresh : key ∉ keys := fun member =>
      List.disjoint_of_nodup_append distinct member (List.mem_singleton_self key)
    rw [eraseDups_concat, if_neg fresh, ih distinct.of_append_left]

theorem eraseDups_append_eraseDups (first second : List κ) :
    (first.eraseDups ++ second).eraseDups = (first ++ second).eraseDups := by
  induction second using List.reverseRecOn with
  | nil => rw [List.append_nil, List.append_nil, eraseDups_eq_self (nodup_eraseDups first)]
  | append_singleton second key ih =>
    rw [← List.append_assoc, ← List.append_assoc, eraseDups_concat, eraseDups_concat, ih]
    simp only [List.mem_append, List.mem_eraseDups]

theorem eraseDups_append_eraseDups_right (first second : List κ) :
    (first ++ second.eraseDups).eraseDups = (first ++ second).eraseDups := by
  induction second using List.reverseRecOn with
  | nil => rfl
  | append_singleton second key ih =>
    rw [← List.append_assoc, eraseDups_concat, eraseDups_concat]
    by_cases known : key ∈ second
    · rw [if_pos known, if_pos (List.mem_append_right first known), ih]
    · rw [if_neg known, ← List.append_assoc, eraseDups_concat, ih]
      simp only [List.mem_append, List.mem_eraseDups]

theorem eraseDups_append_self {keys : List κ} (distinct : keys.Nodup) :
    (keys ++ keys).eraseDups = keys := by
  have none : keys.removeAll keys = [] := by simp [List.removeAll]
  rw [List.eraseDups_append, none, List.eraseDups_nil, List.append_nil,
    eraseDups_eq_self distinct]

def alterAll (m : OrderedMap κ ν) (entries : List (κ × μ)) (change : μ → Option ν → ν) :
    OrderedMap κ ν :=
  entries.foldl (fun grown entry => grown.alter entry.1 (change entry.2)) m

theorem get?_alterAll (m : OrderedMap κ ν) {entries : List (κ × μ)}
    (distinct : (entries.map Prod.fst).Nodup) (change : μ → Option ν → ν) (key : κ) :
    (m.alterAll entries change).get? key =
      ((find? key entries).map fun given => change given (m.get? key)).or (m.get? key) := by
  induction entries generalizing m with
  | nil => rfl
  | cons entry rest ih =>
    obtain ⟨k, given⟩ := entry
    rw [List.map_cons, List.nodup_cons] at distinct
    have step := ih (m.alter k (change given)) distinct.2
    by_cases same : k = key
    · subst same
      have absent : find? k rest = none := by
        rw [Option.eq_none_iff_forall_ne_some]
        intro other found
        have member := (find?_eq_some_iff distinct.2 k other).1 found
        exact distinct.1 (List.mem_map.2 ⟨(k, other), member, rfl⟩)
      rw [absent, get?_alter, if_pos rfl] at step
      rw [find?, if_pos rfl]
      exact step
    · rw [get?_alter, if_neg same] at step
      rw [find?, if_neg same]
      exact step

theorem keys_alterAll (m : OrderedMap κ ν) (entries : List (κ × μ))
    (change : μ → Option ν → ν) :
    (m.alterAll entries change).keys = (m.keys ++ entries.map Prod.fst).eraseDups := by
  induction entries generalizing m with
  | nil => rw [List.map_nil, List.append_nil, eraseDups_eq_self m.nodup_keys]; rfl
  | cons entry rest ih =>
    have placed : (m.alter entry.1 (change entry.2)).keys = (m.keys ++ [entry.1]).eraseDups := by
      rw [keys_alter, eraseDups_concat, eraseDups_eq_self m.nodup_keys]
    calc
      (m.alterAll (entry :: rest) change).keys
          = ((m.keys ++ [entry.1]).eraseDups ++ rest.map Prod.fst).eraseDups := by
        rw [← placed]
        exact ih _
      _ = (m.keys ++ (entry :: rest).map Prod.fst).eraseDups := by
        rw [eraseDups_append_eraseDups, List.append_assoc]
        rfl

theorem keys_foldl {write : OrderedMap κ ν → OrderedMap κ ν → OrderedMap κ ν}
    (written : ∀ base later, (write base later).keys = (base.keys ++ later.keys).eraseDups)
    (base : OrderedMap κ ν) (layers : List (OrderedMap κ ν)) :
    (layers.foldl write base).keys = (base.keys ++ layers.flatMap keys).eraseDups := by
  induction layers using List.reverseRecOn with
  | nil =>
    rw [List.flatMap_nil, List.append_nil, eraseDups_eq_self base.nodup_keys]
    rfl
  | append_singleton layers layer ih =>
    rw [List.foldl_append, List.foldl_cons, List.foldl_nil, written, ih,
      eraseDups_append_eraseDups, List.flatMap_append, List.flatMap_singleton, List.append_assoc]

section Layers

variable (base later : OrderedMap κ ν) (layers : List (OrderedMap κ ν)) (key : κ)

theorem get?_union : (base.union later).get? key = (later.get? key).or (base.get? key) := by
  have written : (base.union later).get? key =
      ((later.get? key).map fun value => value).or (base.get? key) :=
    base.get?_alterAll later.nodup (fun value _ => value) key
  rw [written, Option.map_id']

theorem keys_union : (base.union later).keys = (base.keys ++ later.keys).eraseDups :=
  base.keys_alterAll later.entries fun value _ => value

theorem get?_foldl_union :
    (layers.foldl union base).get? key =
      (layers.filterMap fun layer => layer.get? key).getLast?.or (base.get? key) := by
  induction layers using List.reverseRecOn with
  | nil => rfl
  | append_singleton layers layer ih =>
    rw [List.foldl_append, List.foldl_cons, List.foldl_nil, get?_union, ih,
      List.filterMap_append]
    cases found : layer.get? key with
    | none => simp [found]
    | some value => simp [found]

end Layers

section Laws

variable (first second third : OrderedMap κ ν)

theorem empty_union : empty.union first = first := by
  apply eq_of_keys_of_get?
  · rw [keys_union, keys_empty, List.nil_append, eraseDups_eq_self first.nodup_keys]
  · intro key
    rw [get?_union]
    exact Option.or_none

theorem union_assoc : (first.union second).union third = first.union (second.union third) := by
  apply eq_of_keys_of_get?
  · simp only [keys_union, eraseDups_append_eraseDups, eraseDups_append_eraseDups_right,
      List.append_assoc]
  · intro key
    simp only [get?_union, Option.or_assoc]

theorem union_self : first.union first = first := by
  apply eq_of_keys_of_get?
  · rw [keys_union, eraseDups_append_self first.nodup_keys]
  · intro key
    rw [get?_union, Option.or_self]

end Laws

section Nested

variable {κ ι ν : Type} [DecidableEq κ] [DecidableEq ι]
  (base later : OrderedMap κ (OrderedMap ι ν)) (layers : List (OrderedMap κ (OrderedMap ι ν)))
  (key : κ)

/-- The inner map of a key; a key that is not there has nothing in it. -/
def innerAt (m : OrderedMap κ (OrderedMap ι ν)) (key : κ) : OrderedMap ι ν :=
  (m.get? key).getD empty

theorem get?_mergeNested :
    (mergeNested base later).get? key =
      ((later.get? key).map fun inner => (base.innerAt key).union inner).or (base.get? key) :=
  base.get?_alterAll later.nodup (fun inner present => (present.getD empty).union inner) key

theorem keys_mergeNested :
    (mergeNested base later).keys = (base.keys ++ later.keys).eraseDups :=
  base.keys_alterAll later.entries fun inner present => (present.getD empty).union inner

/-- The inner map of a key is made of the inner maps that the layers have for it. -/
theorem innerAt_foldl_mergeNested :
    (layers.foldl mergeNested base).innerAt key =
      (layers.filterMap fun layer => layer.get? key).foldl union (base.innerAt key) := by
  induction layers using List.reverseRecOn with
  | nil => rfl
  | append_singleton layers layer ih =>
    rw [List.foldl_append, List.foldl_cons, List.foldl_nil, List.filterMap_append,
      List.foldl_append, ← ih, innerAt, get?_mergeNested]
    cases found : layer.get? key with
    | none => simp [found, innerAt]
    | some inner => simp [found]

variable (first second third : OrderedMap κ (OrderedMap ι ν))

theorem mergeNested_assoc :
    mergeNested (mergeNested first second) third =
      mergeNested first (mergeNested second third) := by
  apply eq_of_keys_of_get?
  · simp only [keys_mergeNested, eraseDups_append_eraseDups, eraseDups_append_eraseDups_right,
      List.append_assoc]
  · intro key
    simp only [get?_mergeNested, innerAt]
    cases third.get? key with
    | none => rfl
    | some inner =>
      cases second.get? key with
      | none => simp [empty_union]
      | some middle => simp [union_assoc]

theorem mergeNested_self : mergeNested first first = first := by
  apply eq_of_keys_of_get?
  · rw [keys_mergeNested, eraseDups_append_self first.nodup_keys]
  · intro key
    rw [get?_mergeNested, innerAt]
    cases first.get? key with
    | none => rfl
    | some inner => simp [union_self]

end Nested

end FeatLoom.OrderedMap
