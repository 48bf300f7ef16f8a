/-!
# Maps that remember the order of their keys

A key keeps the place where it first came in; writing to a present key changes its value only, and
a new key goes to the end. The entries are held as a list without repeated keys, so two maps are
equal exactly when they hold the same entries in the same order. The lemmas here say what each
operation does to the keys and to look-up.
-/

namespace FeatLoom

universe u v w

structure OrderedMap (κ : Type u) (ν : Type v) where
  entries : List (κ × ν)
  nodup : (entries.map Prod.fst).Nodup
  deriving DecidableEq

namespace OrderedMap

variable {κ : Type u} {ν : Type v}

@[ext] theorem ext {a b : OrderedMap κ ν} (same : a.entries = b.entries) : a = b := by
  cases a; cases b; cases same; rfl

def empty : OrderedMap κ ν := ⟨[], List.nodup_nil⟩

instance : Inhabited (OrderedMap κ ν) := ⟨empty⟩
instance : EmptyCollection (OrderedMap κ ν) := ⟨empty⟩

def keys (m : OrderedMap κ ν) : List κ := m.entries.map Prod.fst

def values (m : OrderedMap κ ν) : List ν := m.entries.map Prod.snd

def isEmpty (m : OrderedMap κ ν) : Bool := m.entries.isEmpty

def size (m : OrderedMap κ ν) : Nat := m.entries.length

theorem nodup_keys (m : OrderedMap κ ν) : m.keys.Nodup := m.nodup

@[simp] theorem entries_empty : (empty : OrderedMap κ ν).entries = [] := rfl

@[simp] theorem keys_empty : (empty : OrderedMap κ ν).keys = [] := rfl

section Writing

variable [DecidableEq κ]

def find? (key : κ) : List (κ × ν) → Option ν
  | [] => none
  | (k, value) :: rest => if k = key then some value else find? key rest

def place (key : κ) (change : Option ν → ν) : List (κ × ν) → List (κ × ν)
  | [] => [(key, change none)]
  | (k, value) :: rest =>
    if k = key then (k, change (some value)) :: rest else (k, value) :: place key change rest

theorem map_fst_place (key : κ) (change : Option ν → ν) (entries : List (κ × ν)) :
    (place key change entries).map Prod.fst =
      if key ∈ entries.map Prod.fst then entries.map Prod.fst
      else entries.map Prod.fst ++ [key] := by
  induction entries with
  | nil => simp [place]
  | cons entry rest ih =>
    obtain ⟨k, value⟩ := entry
    by_cases same : k = key
    · simp [place, same]
    · have different : ¬ key = k := fun h => same h.symm
      by_cases member : key ∈ rest.map Prod.fst
      · simp [place, same, ih, member]
      · simp [place, same, different, ih, member]

theorem nodup_place (key : κ) (change : Option ν → ν) {entries : List (κ × ν)}
    (nodup : (entries.map Prod.fst).Nodup) :
    ((place key change entries).map Prod.fst).Nodup := by
  rw [map_fst_place]
  split
  · exact nodup
  · next fresh =>
    rw [List.nodup_append]
    refine ⟨nodup, by simp, ?_⟩
    intro a inOld b inNew
    simp only [List.mem_singleton] at inNew
    subst inNew
    exact fun h => fresh (h ▸ inOld)

theorem find?_place (key other : κ) (change : Option ν → ν) (entries : List (κ × ν)) :
    find? other (place key change entries) =
      if key = other then some (change (find? key entries)) else find? other entries := by
  induction entries with
  | nil => simp [place, find?]
  | cons entry rest ih =>
    obtain ⟨k, value⟩ := entry
    by_cases same : k = key
    · subst same
      by_cases h : k = other <;> simp [place, find?, h]
    · by_cases h : key = other
      · subst h
        simp [place, find?, same, ih]
      · simp [place, find?, same, ih, h]

def get? (m : OrderedMap κ ν) (key : κ) : Option ν := find? key m.entries

def contains (m : OrderedMap κ ν) (key : κ) : Bool := (m.get? key).isSome

/-- Changes the value at a key; an absent key is added at the end. -/
def alter (m : OrderedMap κ ν) (key : κ) (change : Option ν → ν) : OrderedMap κ ν :=
  ⟨place key change m.entries, nodup_place key change m.nodup⟩

/-- Writes a value; a present key keeps its place. -/
def insert (m : OrderedMap κ ν) (key : κ) (value : ν) : OrderedMap κ ν :=
  m.alter key fun _ => value

def ensure (m : OrderedMap κ ν) (key : κ) (value : ν) : OrderedMap κ ν :=
  m.alter key fun present => present.getD value

theorem keys_alter (m : OrderedMap κ ν) (key : κ) (change : Option ν → ν) :
    (m.alter key change).keys = if key ∈ m.keys then m.keys else m.keys ++ [key] :=
  map_fst_place key change m.entries

theorem get?_alter (m : OrderedMap κ ν) (key other : κ) (change : Option ν → ν) :
    (m.alter key change).get? other =
      if key = other then some (change (m.get? key)) else m.get? other :=
  find?_place key other change m.entries

theorem get?_insert (m : OrderedMap κ ν) (key other : κ) (value : ν) :
    (m.insert key value).get? other = if key = other then some value else m.get? other :=
  get?_alter m key other _

/-- Writes entries one after the other; the last value of a key stays. -/
def insertAll (m : OrderedMap κ ν) (entries : List (κ × ν)) : OrderedMap κ ν :=
  entries.foldl (fun acc entry => acc.insert entry.1 entry.2) m

def ofList (entries : List (κ × ν)) : OrderedMap κ ν := empty.insertAll entries

def union (base later : OrderedMap κ ν) : OrderedMap κ ν := base.insertAll later.entries

end Writing

def filter (keep : κ → ν → Bool) (m : OrderedMap κ ν) : OrderedMap κ ν :=
  ⟨m.entries.filter fun entry => keep entry.1 entry.2,
    (List.filter_sublist.map Prod.fst).nodup m.nodup⟩

def erase [DecidableEq κ] (m : OrderedMap κ ν) (key : κ) : OrderedMap κ ν :=
  m.filter fun k _ => decide (k ≠ key)

def mapValues {μ : Type w} (f : κ → ν → μ) (m : OrderedMap κ ν) : OrderedMap κ μ :=
  ⟨m.entries.map fun entry => (entry.1, f entry.1 entry.2), by
    simpa [List.map_map, Function.comp_def] using m.nodup⟩

@[simp] theorem keys_mapValues {μ : Type w} (f : κ → ν → μ) (m : OrderedMap κ ν) :
    (m.mapValues f).keys = m.keys := by
  simp [keys, mapValues, Function.comp_def]

end OrderedMap

end FeatLoom
