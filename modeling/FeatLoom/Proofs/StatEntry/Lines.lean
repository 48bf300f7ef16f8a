import FeatLoom.Proofs.StatEntry.Form

/-!
# What the lines of a stat entry say

Every written line has a form. When what is quoted on it is there and holds no quote, the line is
read as what was written.
-/

namespace FeatLoom

def IsPlain (text : String) : Prop :=
  ∀ c ∈ text.toList, c ≠ '"' ∧ Text.isLineBreak c = false

instance (text : String) : Decidable (IsPlain text) := List.decidableBAll _ _

def IsUnbroken (text : String) : Prop := ∀ c ∈ text.toList, Text.isLineBreak c = false

instance (text : String) : Decidable (IsUnbroken text) := List.decidableBAll _ _

theorem IsUnbroken.append {first second : String} (one : IsUnbroken first)
    (two : IsUnbroken second) : IsUnbroken (first ++ second) := Text.forall_mem_append one two

theorem IsPlain.unbroken {text : String} (plain : IsPlain text) : IsUnbroken text :=
  fun c member => (plain c member).2

theorem IsPlain.unbroken_quote {text : String} (plain : IsPlain text) :
    IsUnbroken (StatEntry.quote text) :=
  .append (.append (by decide) plain.unbroken) (by decide)

theorem IsPlain.isQuotable {text : String} (plain : IsPlain text) (some : text ≠ "") :
    StatLine.IsQuotable text.toList :=
  ⟨fun empty => some (String.toList_injective empty), fun quote => (plain _ quote).1 rfl⟩

namespace StatLine

variable {text : String}

theorem toList_quote (text : String) : (StatEntry.quote text).toList = inQuotes text.toList := by
  simp [StatEntry.quote, inQuotes]

theorem phrase_written (word : String) (some : text ≠ "") (plain : IsPlain text)
    (rest : List Char) :
    Phrase word text.toList rest (word.toList ++ ' ' :: ((StatEntry.quote text).toList ++ rest)) :=
  ⟨[' '], isGap_space, plain.isQuotable some, by rw [toList_quote]; rfl⟩

theorem read_header (some : text ≠ "") (plain : IsPlain text) :
    read ("new entry " ++ StatEntry.quote text).toList = .header text := by
  have formed := HasForm.header isGap_space areBlank_nil (phrase_written "entry" some plain [])
  rw [List.append_nil, String.ofList_toList] at formed
  rw [String.toList_append]
  exact formed.read_eq

theorem read_entryType (plain : IsPlain text) :
    read ("type " ++ StatEntry.quote text).toList =
      if text = "" then .other else .entryType text := by
  by_cases empty : text = ""
  · subst empty
    rfl
  · have formed := @HasForm.entryType _ [] _ _ areBlank_nil (phrase_written "type" empty plain [])
    rw [List.append_nil, String.ofList_toList] at formed
    rw [String.toList_append, if_neg empty]
    exact formed.read_eq

theorem read_parent (some : text ≠ "") (plain : IsPlain text) :
    read ("using " ++ StatEntry.quote text).toList = .parent text := by
  have formed := @HasForm.parent _ [] _ _ areBlank_nil (phrase_written "using" some plain [])
  rw [List.append_nil, String.ofList_toList] at formed
  rw [String.toList_append]
  exact formed.read_eq

theorem read_data {key values : String} (keySome : key ≠ "") (keyPlain : IsPlain key)
    (valuesSome : values ≠ "") (valuesPlain : IsPlain values) :
    read ("data " ++ StatEntry.quote key ++ " " ++ StatEntry.quote values).toList =
      .data key ((values.toList.splitOn ';').map String.ofList) := by
  have formed := @HasForm.data _ _ [] _ _ _ isGap_space (valuesPlain.isQuotable valuesSome)
    areBlank_nil (phrase_written "data" keySome keyPlain ([' '] ++ (inQuotes values.toList ++ [])))
  rw [List.append_nil, String.ofList_toList, ← toList_quote] at formed
  rw [String.toList_append, String.toList_append, String.toList_append, List.append_assoc,
    List.append_assoc]
  exact formed.read_eq

end StatLine

end FeatLoom
