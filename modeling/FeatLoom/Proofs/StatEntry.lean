import FeatLoom.Proofs.OrderedMap
import FeatLoom.Template

/-!
# Values of stat entries

What an entry holds under a key is what has been added under that key, in order, without the empty
values. A template holds the values of its fields.
-/

namespace FeatLoom

namespace StatEntry

variable (entry : StatEntry) (key other value : String) (values : List String)

@[simp] theorem name_extend : (entry.extend key values).name = entry.name := by
  unfold extend
  split
  · rfl
  · rfl

@[simp] theorem entryType_extend : (entry.extend key values).entryType = entry.entryType := by
  unfold extend
  split
  · rfl
  · rfl

@[simp] theorem parent_extend : (entry.extend key values).parent = entry.parent := by
  unfold extend
  split
  · rfl
  · rfl

theorem keys_extend :
    (entry.extend key values).data.keys =
      if values.filter (· ≠ "") = [] ∨ key ∈ entry.data.keys then entry.data.keys
      else entry.data.keys ++ [key] := by
  unfold extend
  generalize values.filter (· ≠ "") = added
  cases added with
  | nil => rw [if_pos (.inl rfl)]
  | cons first more => simp only [OrderedMap.keys_alter, reduceCtorEq, false_or]

@[simp] theorem name_add : (entry.add key value).name = entry.name := name_extend ..

@[simp] theorem valuesOf_extend :
    (entry.extend key values).valuesOf other =
      entry.valuesOf other ++ if key = other then values.filter (· ≠ "") else [] := by
  unfold extend
  generalize values.filter (· ≠ "") = added
  cases added with
  | nil => simp
  | cons first more =>
    simp only [valuesOf, get?, OrderedMap.get?_alter]
    by_cases same : key = other
    · subst same
      rw [if_pos rfl, if_pos rfl]
      rfl
    · rw [if_neg same, if_neg same, List.append_nil]

@[simp] theorem valuesOf_add :
    (entry.add key value).valuesOf other =
      entry.valuesOf other ++ if key = other then [value].filter (· ≠ "") else [] :=
  valuesOf_extend ..

end StatEntry

namespace Template

def fieldValues (data : List (String × List String)) (key : String) : List String :=
  data.flatMap fun field => if field.1 = key then field.2.filter (· ≠ "") else []

theorem foldl_extend (entry : StatEntry) (data : List (String × List String)) :
    let filled := data.foldl (fun entry field => entry.extend field.1 field.2) entry
    filled.name = entry.name ∧
      ∀ key, filled.valuesOf key = entry.valuesOf key ++ fieldValues data key := by
  induction data generalizing entry with
  | nil => simp [fieldValues]
  | cons field data ih =>
    obtain ⟨name, values⟩ := ih (entry.extend field.1 field.2)
    refine ⟨by rw [List.foldl_cons, name, StatEntry.name_extend], fun key => ?_⟩
    rw [List.foldl_cons, values, StatEntry.valuesOf_extend, List.append_assoc]
    rfl

variable (name entryType key : String) (data : List (String × List String))

@[simp] theorem name_filled : (filled name entryType data).name = name :=
  (foldl_extend ⟨name, entryType, none, OrderedMap.empty⟩ data).1

theorem valuesOf_filled : (filled name entryType data).valuesOf key = fieldValues data key :=
  (foldl_extend ⟨name, entryType, none, OrderedMap.empty⟩ data).2 key

@[simp] theorem name_spell : (spell name).name = name := name_filled ..

@[simp] theorem name_container : (container name).name = name := name_filled ..

@[simp] theorem name_boost : (boost name).name = name := name_filled ..

end Template

end FeatLoom
