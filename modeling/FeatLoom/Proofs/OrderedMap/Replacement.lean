import FeatLoom.Proofs.OrderedMap.Overlay

/-!
# Replacing entries

Taking out some keys and then writing entries changes what is found at these keys only. Where all
entries that are written have keys of the kind that is taken out, to take out this kind once more
undoes the writing.
-/

namespace FeatLoom.OrderedMap

universe u v

variable {κ : Type u} {ν : Type v}

theorem filter_congr (m : OrderedMap κ ν) {keep other : κ → Bool}
    (same : ∀ key ∈ m.keys, keep key = other key) :
    (m.filter fun k _ => keep k) = m.filter fun k _ => other k := by
  apply ext
  apply List.filter_congr
  intro entry member
  exact same entry.1 (List.mem_map_of_mem member)

theorem filter_filter_self (m : OrderedMap κ ν) (keep : κ → Bool) :
    ((m.filter fun k _ => keep k).filter fun k _ => keep k) = m.filter fun k _ => keep k :=
  ext (by simp [filter, List.filter_filter])

variable [DecidableEq κ]

theorem get?_filter (m : OrderedMap κ ν) (keep : κ → Bool) (key : κ) :
    (m.filter fun k _ => keep k).get? key = if keep key then m.get? key else none := by
  rw [get?_filter_values]
  cases m.get? key <;> cases keep key <;> rfl

theorem foldl_erase (m : OrderedMap κ ν) (keys : List κ) :
    keys.foldl erase m = m.filter fun k _ => !decide (k ∈ keys) := by
  induction keys generalizing m with
  | nil => exact ext (by simp [filter])
  | cons key keys ih =>
    rw [List.foldl_cons, ih]
    apply ext
    simp only [erase, filter, List.filter_filter]
    apply List.filter_congr
    intro entry _
    simp [List.mem_cons, Bool.and_comm]

/-- Erasing keys is keeping the others. -/
theorem foldl_erase_eq_filter (m : OrderedMap κ ν) {keys : List κ} {keep : κ → Bool}
    (taken : ∀ key ∈ m.keys, key ∈ keys ↔ keep key = false) :
    keys.foldl erase m = m.filter fun k _ => keep k := by
  rw [foldl_erase]
  apply filter_congr
  intro key known
  cases kept : keep key <;> simp [taken key known, kept]

section Writing

variable (m : OrderedMap κ ν) {entries : List (κ × ν)}

theorem find?_eq_none_iff {key : κ} : find? key entries = none ↔ key ∉ entries.map Prod.fst := by
  induction entries with
  | nil => simp [find?]
  | cons entry entries ih =>
    by_cases same : entry.1 = key
    · simp [find?, same]
    · simp [find?, same, ih, Ne.symm same]

theorem get?_insertAll (distinct : (entries.map Prod.fst).Nodup) (key : κ) :
    (m.insertAll entries).get? key = (find? key entries).or (m.get? key) := by
  have written := m.get?_alterAll distinct (fun value _ => value) key
  rw [Option.map_id'] at written
  exact written

theorem keys_insertAll :
    (m.insertAll entries).keys = (m.keys ++ entries.map Prod.fst).eraseDups :=
  m.keys_alterAll entries fun value _ => value

theorem contains_insertAll {key : κ} : (m.insertAll entries).contains key ↔
    m.contains key ∨ key ∈ entries.map Prod.fst := by
  rw [contains_iff, keys_insertAll, List.mem_eraseDups, List.mem_append, contains_iff]

theorem filter_insert_of_dropped {keep : κ → Bool} {key : κ} (dropped : keep key = false)
    (value : ν) :
    ((m.insert key value).filter fun k _ => keep k) = m.filter fun k _ => keep k := by
  obtain ⟨present, nodup⟩ := m
  apply ext
  change (place key (fun _ => value) present).filter (fun entry => keep entry.1) =
    present.filter fun entry => keep entry.1
  clear nodup
  induction present with
  | nil => simp [place, dropped]
  | cons entry present ih =>
    by_cases same : entry.1 = key
    · simp [place, same, dropped]
    · rw [place, if_neg same, List.filter_cons, List.filter_cons, ih]

theorem filter_insertAll_of_dropped {keep : κ → Bool}
    (dropped : ∀ entry ∈ entries, keep entry.1 = false) :
    ((m.insertAll entries).filter fun k _ => keep k) = m.filter fun k _ => keep k := by
  induction entries generalizing m with
  | nil => rfl
  | cons entry entries ih =>
    rw [List.forall_mem_cons] at dropped
    exact (ih (m.insert entry.1 entry.2) dropped.2).trans
      (m.filter_insert_of_dropped dropped.1 entry.2)

end Writing

end FeatLoom.OrderedMap
