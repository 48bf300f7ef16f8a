import FeatLoom.OrderedMap.Lists
import Mathlib.Data.List.Induction
import Mathlib.Data.List.Nodup

/-!
# Equality and contents of ordered maps

Two maps with the same keys in the same order and the same values are equal. Of two changes at one
key only their composition counts, and changes at known keys do not depend on their order. Appending
items to the lists of a map can be done one item at a time, and it adds exactly these items to what
the lists hold.
-/

namespace FeatLoom.OrderedMap

universe u v w

variable {κ : Type u} {ν : Type v} [DecidableEq κ]

theorem find?_eq_some_iff {entries : List (κ × ν)} (nodup : (entries.map Prod.fst).Nodup)
    (key : κ) (value : ν) : find? key entries = some value ↔ (key, value) ∈ entries := by
  induction entries with
  | nil => simp [find?]
  | cons entry rest ih =>
    obtain ⟨k, present⟩ := entry
    rw [List.map_cons, List.nodup_cons] at nodup
    by_cases same : k = key
    · subst same
      have absent : (k, value) ∉ rest := fun member =>
        nodup.1 (List.mem_map.2 ⟨(k, value), member, rfl⟩)
      simp [find?, absent, eq_comm]
    · have different : key ≠ k := fun h => same h.symm
      simp [find?, same, different, ih nodup.2]

theorem get?_eq_some_iff (m : OrderedMap κ ν) (key : κ) (value : ν) :
    m.get? key = some value ↔ (key, value) ∈ m.entries :=
  find?_eq_some_iff m.nodup key value

theorem get?_eq_none_iff (m : OrderedMap κ ν) (key : κ) : m.get? key = none ↔ key ∉ m.keys := by
  rw [Option.eq_none_iff_forall_ne_some]
  simp [get?_eq_some_iff, keys]

theorem contains_iff (m : OrderedMap κ ν) (key : κ) : m.contains key = true ↔ key ∈ m.keys := by
  rw [contains, Option.isSome_iff_ne_none, ne_eq, get?_eq_none_iff, not_not]

theorem mem_keys_of_get? (m : OrderedMap κ ν) {key : κ} {value : ν}
    (found : m.get? key = some value) : key ∈ m.keys :=
  List.mem_map_of_mem ((m.get?_eq_some_iff key value).1 found)

/-- A map is determined by its keys in order and by what is found at them. -/
theorem eq_of_keys_of_get? {a b : OrderedMap κ ν} (sameKeys : a.keys = b.keys)
    (sameValues : ∀ key, a.get? key = b.get? key) : a = b := by
  have tagged (m : OrderedMap κ ν) :
      m.entries.map (fun entry => (entry.1, some entry.2)) =
        m.keys.map fun key => (key, m.get? key) := by
    rw [keys, List.map_map]
    apply List.map_congr_left
    intro entry member
    simp [(m.get?_eq_some_iff entry.1 entry.2).2 member]
  have injective : Function.Injective fun entry : κ × ν => (entry.1, some entry.2) := by
    rintro ⟨k, v⟩ ⟨k', v'⟩ same
    simpa using same
  apply ext
  apply List.map_injective_iff.2 injective
  rw [tagged a, tagged b, sameKeys]
  exact List.map_congr_left fun key _ => by rw [sameValues]

theorem get?_mapValues {μ : Type w} (f : κ → ν → μ) (m : OrderedMap κ ν) (key : κ) :
    (m.mapValues f).get? key = (m.get? key).map (f key) := by
  obtain ⟨entries, nodup⟩ := m
  change find? key (entries.map fun entry => (entry.1, f entry.1 entry.2)) =
    (find? key entries).map (f key)
  clear nodup
  induction entries with
  | nil => rfl
  | cons entry entries ih =>
    by_cases same : entry.1 = key
    · simp [find?, same]
    · simp [find?, same, ih]

theorem get?_filter_values (m : OrderedMap κ ν) (keep : κ → ν → Bool) (key : κ) :
    (m.filter keep).get? key = (m.get? key).filter (keep key) := by
  apply Option.ext
  intro value
  rw [get?_eq_some_iff, filter, List.mem_filter, ← get?_eq_some_iff]
  simp

theorem entries_alter_of_fresh {m : OrderedMap κ ν} {key : κ} (fresh : key ∉ m.keys)
    (change : Option ν → ν) : (m.alter key change).entries = m.entries ++ [(key, change none)] := by
  obtain ⟨entries, nodup⟩ := m
  change place key change entries = entries ++ [(key, change none)]
  change key ∉ entries.map Prod.fst at fresh
  clear nodup
  induction entries with
  | nil => rfl
  | cons entry rest ih =>
    rw [List.map_cons, List.mem_cons, not_or] at fresh
    rw [place, if_neg fun same => fresh.1 same.symm, ih fresh.2, List.cons_append]

/-! ## Writing twice -/

theorem mem_keys_alter (m : OrderedMap κ ν) {key other : κ} {change : Option ν → ν} :
    other ∈ (m.alter key change).keys ↔ other ∈ m.keys ∨ other = key := by
  rw [keys_alter]
  split
  · next member => exact ⟨Or.inl, fun known => known.elim id (· ▸ member)⟩
  · rw [List.mem_append, List.mem_singleton]

theorem alter_congr (m : OrderedMap κ ν) {key : κ} {change other : Option ν → ν}
    (same : change (m.get? key) = other (m.get? key)) : m.alter key change = m.alter key other := by
  apply eq_of_keys_of_get?
  · rw [keys_alter, keys_alter]
  · intro searched
    rw [get?_alter, get?_alter, same]

/-- Changing the value at a key twice changes it once. -/
theorem alter_alter (m : OrderedMap κ ν) (key : κ) (first second : Option ν → ν) :
    (m.alter key first).alter key second =
      m.alter key fun present => second (some (first present)) := by
  apply eq_of_keys_of_get?
  · rw [keys_alter, if_pos (m.mem_keys_alter.2 (Or.inr rfl)), keys_alter, keys_alter]
  · intro other
    by_cases same : key = other <;> simp [get?_alter, same]

theorem alter_comm (m : OrderedMap κ ν) {key other : κ} (different : key ≠ other)
    (known : key ∈ m.keys) (change changeOther : Option ν → ν) :
    (m.alter key change).alter other changeOther =
      (m.alter other changeOther).alter key change := by
  apply eq_of_keys_of_get?
  · rw [keys_alter _ key, if_pos (m.mem_keys_alter.2 (Or.inl known)), keys_alter, keys_alter,
      keys_alter, if_pos known]
  · intro searched
    by_cases isKey : key = searched
    · subst isKey
      simp [get?_alter, different.symm]
    · by_cases isOther : other = searched <;> simp [get?_alter, isKey, isOther]

theorem alter_eq_self (m : OrderedMap κ ν) {key : κ} {value : ν} {change : Option ν → ν}
    (found : m.get? key = some value) (kept : change (some value) = value) :
    m.alter key change = m := by
  apply eq_of_keys_of_get?
  · rw [keys_alter, if_pos (m.mem_keys_of_get? found)]
  · intro other
    rw [get?_alter, found, kept]
    split
    · next same => exact same ▸ found.symm
    · rfl

/-! ## Distinct keys -/

theorem eraseDups_concat (keys : List κ) (key : κ) :
    (keys ++ [key]).eraseDups =
      if key ∈ keys then keys.eraseDups else keys.eraseDups ++ [key] := by
  rw [List.eraseDups_append]
  by_cases present : key ∈ keys
  · simp [List.removeAll, present]
  · simp [List.removeAll, present, List.eraseDups_cons]

theorem nodup_eraseDups (keys : List κ) : keys.eraseDups.Nodup := by
  induction keys using List.reverseRecOn with
  | nil => exact List.nodup_nil
  | append_singleton keys key ih =>
    rw [eraseDups_concat]
    split
    · exact ih
    · next fresh =>
      rw [← List.concat_eq_append]
      exact ih.concat fun member => fresh (List.mem_eraseDups.1 member)

/-- Keys without their repetitions come in the order in which they first occur. -/
theorem pairwise_idxOf_eraseDups (keys : List κ) :
    keys.eraseDups.Pairwise fun first second => keys.idxOf first < keys.idxOf second := by
  induction keys using List.reverseRecOn with
  | nil => exact List.Pairwise.nil
  | append_singleton keys key ih =>
    have before : keys.eraseDups.Pairwise fun first second =>
        (keys ++ [key]).idxOf first < (keys ++ [key]).idxOf second := by
      refine ih.imp_of_mem fun inFirst inSecond less => ?_
      rwa [List.idxOf_append_of_mem (List.mem_eraseDups.1 inFirst),
        List.idxOf_append_of_mem (List.mem_eraseDups.1 inSecond)]
    rw [eraseDups_concat]
    split
    · exact before
    · next fresh =>
      refine List.pairwise_append.2 ⟨before, List.pairwise_singleton _ _, ?_⟩
      intro first inFirst second inSecond
      have known := List.mem_eraseDups.1 inFirst
      rw [List.mem_singleton.1 inSecond, List.idxOf_append_of_mem known,
        List.idxOf_append_of_notMem fresh]
      exact Nat.lt_of_lt_of_le (List.idxOf_lt_length_iff.2 known) (Nat.le_add_right _ _)

/-! ## Lists at keys -/

def append (m : OrderedMap κ (List ν)) (item : κ × ν) : OrderedMap κ (List ν) :=
  m.alter item.1 fun present => present.getD [] ++ [item.2]

def alterEach (m : OrderedMap κ ν) (keys : List κ) (change : κ → Option ν → ν) :
    OrderedMap κ ν :=
  keys.foldl (fun grown key => grown.alter key (change key)) m

theorem get?_alterEach (m : OrderedMap κ ν) {keys : List κ} (distinct : keys.Nodup)
    (change : κ → Option ν → ν) (other : κ) :
    (m.alterEach keys change).get? other =
      if other ∈ keys then some (change other (m.get? other)) else m.get? other := by
  induction keys generalizing m with
  | nil => rfl
  | cons key rest ih =>
    rw [List.nodup_cons] at distinct
    rw [alterEach, List.foldl_cons, ← alterEach, ih _ distinct.2, get?_alter]
    by_cases same : key = other
    · subst same
      simp [distinct.1]
    · have different : other ≠ key := fun h => same h.symm
      simp [same, different]

theorem keys_alterEach_congr {m n : OrderedMap κ ν} (same : m.keys = n.keys) (keys : List κ)
    (change other : κ → Option ν → ν) :
    (m.alterEach keys change).keys = (n.alterEach keys other).keys := by
  induction keys generalizing m n with
  | nil => exact same
  | cons key rest ih =>
    refine ih ?_
    rw [keys_alter, keys_alter, same]

theorem itemsAt_append (key : κ) (first second : List (κ × ν)) :
    itemsAt key (first ++ second) = itemsAt key first ++ itemsAt key second :=
  List.filterMap_append

theorem itemsAt_cons (key : κ) (item : κ × ν) (items : List (κ × ν)) :
    itemsAt key (item :: items) = (if item.1 = key then [item.2] else []) ++ itemsAt key items := by
  by_cases same : item.1 = key <;> simp [itemsAt, same]

theorem itemsAt_concat (key : κ) (items : List (κ × ν)) (item : κ × ν) :
    itemsAt key (items ++ [item]) =
      itemsAt key items ++ if item.1 = key then [item.2] else [] := by
  rw [itemsAt_append, itemsAt_cons]
  exact congrArg _ (List.append_nil _)

theorem appendAll_concat (m : OrderedMap κ (List ν)) (items : List (κ × ν)) (item : κ × ν) :
    m.appendAll (items ++ [item]) = (m.appendAll items).append item := by
  have grown (items : List (κ × ν)) : m.appendAll items =
      m.alterEach (items.map Prod.fst).eraseDups
        fun key present => present.getD [] ++ itemsAt key items := rfl
  rw [grown, grown, append, List.map_append, List.map_singleton, eraseDups_concat]
  have distinct := nodup_eraseDups (items.map Prod.fst)
  split
  · next known =>
    -- The key is there already, so only the value at it differs.
    have member : item.1 ∈ (items.map Prod.fst).eraseDups := List.mem_eraseDups.2 known
    apply eq_of_keys_of_get?
    · rw [keys_alter, if_pos]
      · exact keys_alterEach_congr rfl _ _ _
      · rw [← not_not (a := item.1 ∈ _), ← get?_eq_none_iff, get?_alterEach m distinct,
          if_pos member]
        exact Option.some_ne_none _
    · intro key
      rw [get?_alter, get?_alterEach m distinct, get?_alterEach m distinct,
        get?_alterEach m distinct, itemsAt_concat]
      by_cases same : item.1 = key
      · subst same
        simp [member]
      · simp [same]
  · next fresh =>
    have noItems : itemsAt item.1 items = [] := by
      rw [itemsAt, List.filterMap_eq_nil_iff]
      intro other member
      exact if_neg fun same : other.1 = item.1 => fresh (same ▸ List.mem_map_of_mem member)
    have others : m.alterEach (items.map Prod.fst).eraseDups
          (fun key present => present.getD [] ++ itemsAt key (items ++ [item])) =
        m.alterEach (items.map Prod.fst).eraseDups
          fun key present => present.getD [] ++ itemsAt key items := by
      refine List.foldl_ext _ _ _ fun grown key member => ?_
      have different : ¬ item.1 = key := fun same =>
        fresh (same ▸ List.mem_eraseDups.1 member)
      simp [itemsAt_concat, different]
    rw [alterEach, List.foldl_append, List.foldl_cons, List.foldl_nil, ← alterEach, others]
    simp [itemsAt_concat, noItems]

theorem appendAll_eq_foldl (m : OrderedMap κ (List ν)) (items : List (κ × ν)) :
    m.appendAll items = items.foldl append m := by
  induction items using List.reverseRecOn with
  | nil => rfl
  | append_singleton items item ih =>
    rw [appendAll_concat, ih, List.foldl_append, List.foldl_cons, List.foldl_nil]

theorem appendAll_append (m : OrderedMap κ (List ν)) (first second : List (κ × ν)) :
    m.appendAll (first ++ second) = (m.appendAll first).appendAll second := by
  simp only [appendAll_eq_foldl, List.foldl_append]

theorem getD_get?_appendAll (m : OrderedMap κ (List ν)) (items : List (κ × ν)) (key : κ) :
    ((m.appendAll items).get? key).getD [] = (m.get? key).getD [] ++ itemsAt key items := by
  rw [appendAll_eq_foldl]
  induction items using List.reverseRecOn with
  | nil => exact (List.append_nil _).symm
  | append_singleton items item ih =>
    rw [List.foldl_append, List.foldl_cons, List.foldl_nil, append, get?_alter, itemsAt_concat]
    by_cases same : item.1 = key
    · subst same
      simp [ih]
    · simp [same, ih]

theorem itemsAt_eq_nil_iff {key : κ} {items : List (κ × ν)} :
    itemsAt key items = [] ↔ key ∉ items.map Prod.fst := by
  rw [itemsAt, List.filterMap_eq_nil_iff, List.mem_map]
  constructor
  · rintro none ⟨item, member, rfl⟩
    exact absurd (none item member) (by simp)
  · intro absent item member
    exact if_neg fun same => absent ⟨item, member, same⟩

theorem mem_keys_appendAll {m : OrderedMap κ (List ν)} {items : List (κ × ν)} {key : κ} :
    key ∈ (m.appendAll items).keys ↔ key ∈ m.keys ∨ key ∈ items.map Prod.fst := by
  rw [appendAll_eq_foldl]
  induction items generalizing m with
  | nil => simp
  | cons item items ih =>
    rw [List.foldl_cons, ih, append, mem_keys_alter, List.map_cons, List.mem_cons, or_assoc]

theorem mem_keys_appendAll_empty_iff {items : List (κ × ν)} {key : κ} :
    key ∈ (empty.appendAll items).keys ↔ ((empty.appendAll items).get? key).getD [] ≠ [] := by
  have items : ((empty.appendAll items).get? key).getD [] = itemsAt key items :=
    getD_get?_appendAll empty items key
  rw [items, mem_keys_appendAll, ne_eq, itemsAt_eq_nil_iff, not_not, keys_empty]
  exact or_iff_right List.not_mem_nil

theorem keys_appendAll_of_known {m : OrderedMap κ (List ν)} {items : List (κ × ν)}
    (known : ∀ item ∈ items, item.1 ∈ m.keys) : (m.appendAll items).keys = m.keys := by
  rw [appendAll_eq_foldl]
  induction items using List.reverseRecOn with
  | nil => rfl
  | append_singleton items item ih =>
    rw [List.forall_mem_append] at known
    have same := ih known.1
    rw [List.foldl_append, List.foldl_cons, List.foldl_nil, append, keys_alter, same,
      if_pos (known.2 item (List.mem_singleton_self item))]

/-- To append the same items once more doubles every list. -/
theorem appendAll_appendAll_self (items : List (κ × ν)) :
    (empty.appendAll items).appendAll items =
      (empty.appendAll items).mapValues fun _ listed => listed ++ listed := by
  have known : ∀ item ∈ items, item.1 ∈ (empty.appendAll items).keys := fun item member =>
    mem_keys_appendAll.2 (Or.inr (List.mem_map_of_mem member))
  have sameKeys := keys_appendAll_of_known known
  apply eq_of_keys_of_get?
  · rw [sameKeys, keys_mapValues]
  · intro key
    have once : ((empty.appendAll items).get? key).getD [] = itemsAt key items :=
      getD_get?_appendAll empty items key
    have again := getD_get?_appendAll (empty.appendAll items) items key
    rw [get?_mapValues]
    cases held : (empty.appendAll items).get? key with
    | none =>
      rw [get?_eq_none_iff, ← sameKeys, ← get?_eq_none_iff] at held
      exact held
    | some listed =>
      have member : key ∈ ((empty.appendAll items).appendAll items).keys := by
        rw [sameKeys]
        exact mem_keys_of_get? _ held
      obtain ⟨doubled, found⟩ := Option.ne_none_iff_exists'.1
        (mt (get?_eq_none_iff _ key).1 (not_not.2 member))
      rw [held, Option.getD_some] at once
      rw [held, found, Option.getD_some, Option.getD_some, ← once] at again
      rw [found, again]
      rfl

theorem get?_ofList (entries : List (κ × ν)) (key : κ) :
    (ofList entries).get? key = (itemsAt key entries).getLast? := by
  induction entries using List.reverseRecOn with
  | nil => rfl
  | append_singleton entries entry ih =>
    have step : (ofList (entries ++ [entry])).get? key =
        ((ofList entries).insert entry.1 entry.2).get? key := by
      rw [ofList, insertAll, List.foldl_append]
      rfl
    rw [step, get?_insert, itemsAt_concat]
    by_cases same : entry.1 = key
    · rw [if_pos same, if_pos same, List.getLast?_concat]
    · rw [if_neg same, if_neg same, List.append_nil, ih]

theorem entries_eq_map_keys (m : OrderedMap κ (List ν)) :
    m.entries = m.keys.map fun key => (key, (m.get? key).getD []) := by
  rw [keys, List.map_map]
  conv_lhs => rw [← List.map_id m.entries]
  apply List.map_congr_left
  intro entry member
  simp [(m.get?_eq_some_iff entry.1 entry.2).2 member]

/-- Items that are appended to nothing are grouped by their keys, first come first. -/
theorem entries_appendAll_empty (items : List (κ × ν)) :
    (empty.appendAll items).entries =
      (items.map Prod.fst).eraseDups.map fun key => (key, itemsAt key items) := by
  have keys : (empty.appendAll items).keys = (items.map Prod.fst).eraseDups := by
    rw [appendAll_eq_foldl]
    induction items using List.reverseRecOn with
    | nil => rfl
    | append_singleton items item ih =>
      rw [List.foldl_append, List.foldl_cons, List.foldl_nil, append, keys_alter, ih,
        List.map_append, List.map_singleton, eraseDups_concat]
      simp only [List.mem_eraseDups]
  rw [entries_eq_map_keys, keys]
  apply List.map_congr_left
  intro key _
  rw [getD_get?_appendAll]
  rfl

theorem map_itemsAt {μ : Type w} (f : ν → μ) (key : κ) (items : List (κ × ν)) :
    (itemsAt key items).map f = itemsAt key (items.map fun item => (item.1, f item.2)) := by
  rw [itemsAt, itemsAt, List.map_filterMap, List.filterMap_map]
  apply List.filterMap_congr
  intro item _
  exact apply_ite (Option.map f) _ _ _

end FeatLoom.OrderedMap
