import FeatLoom.Proofs.Text.Pieces
import Mathlib.Data.List.TakeWhile

/-!
# Items of a list

The items of two lists with a separator between them are the items of the first list and then those
of the second one. Blanks at the ends of a list are blanks at the ends of its pieces, so they change
no item, and a list of blanks has none.
-/

namespace FeatLoom.Text

variable {before after : List Char}

theorem trim_padded (blankBefore : ∀ c ∈ before, isBlank c = true)
    (blankAfter : ∀ c ∈ after, isBlank c = true) (text : List Char) :
    trim (before ++ (text ++ after)) = trim text := by
  have blankReversed : ∀ c ∈ after.reverse, isBlank c = true := by simpa using blankAfter
  simp only [trim, trimLeft, List.dropWhile_append_of_pos blankBefore]
  cases visible : text.dropWhile isBlank with
  | nil =>
    have none : after.dropWhile isBlank = [] := List.dropWhile_eq_nil_iff.2 blankAfter
    simp [List.dropWhile_append, visible, none]
  | cons c rest =>
    have kept : (text ++ after).dropWhile isBlank = c :: rest ++ after := by
      simp [List.dropWhile_append, visible]
    rw [kept, trimRight, List.reverse_append, List.dropWhile_append_of_pos blankReversed, trimRight]

theorem exists_padding (text : List Char) : ∃ before after, (∀ c ∈ before, isBlank c = true) ∧
    (∀ c ∈ after, isBlank c = true) ∧ text = before ++ (trim text ++ after) := by
  let shown := (trimLeft text).reverse
  refine ⟨text.takeWhile isBlank, (shown.takeWhile isBlank).reverse,
    fun c member => List.mem_takeWhile_imp member,
    fun c member => List.mem_takeWhile_imp (List.mem_reverse.1 member), ?_⟩
  calc text = text.takeWhile isBlank ++ trimLeft text := List.takeWhile_append_dropWhile.symm
    _ = text.takeWhile isBlank ++ (trim text ++ (shown.takeWhile isBlank).reverse) := by
      rw [trim, trimRight, ← List.reverse_append, List.takeWhile_append_dropWhile,
        List.reverse_reverse]

theorem trim_trim (text : List Char) : trim (trim text) = trim text := by
  obtain ⟨before, after, blankBefore, blankAfter, split⟩ := exists_padding text
  have padded := trim_padded blankBefore blankAfter (trim text)
  rwa [← split, eq_comm] at padded

theorem mem_of_mem_trim {text : List Char} {c : Char} (member : c ∈ trim text) : c ∈ text := by
  obtain ⟨before, after, _, _, split⟩ := exists_padding text
  rw [split]
  exact List.mem_append_right before (List.mem_append_left after member)

theorem trim_of_blank (blank : ∀ c ∈ before, isBlank c = true) : trim before = [] := by
  have none : before.dropWhile isBlank = [] := List.dropWhile_eq_nil_iff.2 blank
  simp [trim, trimLeft, trimRight, none]

theorem trim_of_visible {first last : Char} (seen : isBlank first = false)
    (seenLast : isBlank last = false) (inner : List Char) :
    trim (first :: (inner ++ [last])) = first :: (inner ++ [last]) := by
  simp [trim, trimLeft, trimRight, seen, seenLast]

section Items

variable {separator : Char}

theorem items_append (first second : List Char) :
    items [separator] (first ++ separator :: second) =
      items [separator] first ++ items [separator] second := by
  simp [items, splitOn_singleton, List.splitOn_append_cons_self]

theorem items_of_unseparated {piece : List Char} (whole : separator ∉ piece) :
    items [separator] piece = if trim piece = [] then [] else [trim piece] := by
  rw [items, splitOn_singleton, List.splitOn_eq_singleton whole]
  by_cases empty : trim piece = [] <;> simp [empty]

theorem mem_items_iff {item text : List Char} : item ∈ items [separator] text ↔
    ∃ piece ∈ splitOn [separator] text, trim piece = item ∧ item ≠ [] := by
  simp only [items, List.mem_filter, List.mem_map, Bool.not_eq_true', List.isEmpty_eq_false_iff]
  constructor
  · rintro ⟨⟨piece, member, rfl⟩, some⟩
    exact ⟨piece, member, rfl, some⟩
  · rintro ⟨piece, member, rfl, some⟩
    exact ⟨⟨piece, member, rfl⟩, some⟩

/-- A text is one piece, or two texts with the separator between them. -/
theorem separated_induction (separator : Char) {holds : List Char → Prop}
    (one : ∀ piece, separator ∉ piece → holds piece)
    (two : ∀ first rest, holds first → holds rest → holds (first ++ separator :: rest))
    (text : List Char) : holds text := by
  induction size : text.length using Nat.strong_induction_on generalizing text with
  | h most ih =>
    by_cases member : separator ∈ text
    · obtain ⟨first, rest, rfl⟩ := List.append_of_mem member
      simp only [List.length_append, List.length_cons] at size
      exact two first rest (ih _ (by omega) first rfl) (ih _ (by omega) rest rfl)
    · exact one text member

theorem not_mem_of_mem_splitOn {piece text : List Char} (member : piece ∈ text.splitOn separator) :
    separator ∉ piece := by
  induction text using separated_induction separator with
  | one text absent =>
    rw [List.splitOn_eq_singleton absent, List.mem_singleton] at member
    exact member ▸ absent
  | two first rest ihFirst ihRest =>
    rw [List.splitOn_append_cons_self, List.mem_append] at member
    exact member.elim ihFirst ihRest

variable (visible : isBlank separator = false)

include visible

theorem not_mem_of_blank (blank : ∀ c ∈ before, isBlank c = true) : separator ∉ before :=
  fun member => by simp [blank separator member] at visible

theorem items_of_blank (blank : ∀ c ∈ before, isBlank c = true) :
    items [separator] before = [] := by
  rw [items_of_unseparated (not_mem_of_blank visible blank), if_pos (trim_of_blank blank)]

theorem items_padded (blankBefore : ∀ c ∈ before, isBlank c = true)
    (blankAfter : ∀ c ∈ after, isBlank c = true) (text : List Char) :
    items [separator] (before ++ (text ++ after)) = items [separator] text := by
  induction text using separated_induction separator generalizing before after with
  | one piece whole =>
    have apart : separator ∉ before ++ (piece ++ after) := by
      simp [whole, not_mem_of_blank visible blankBefore, not_mem_of_blank visible blankAfter]
    rw [items_of_unseparated apart, items_of_unseparated whole, trim_padded blankBefore blankAfter]
  | two first rest ihFirst ihRest =>
    have nothing : ∀ c ∈ ([] : List Char), isBlank c = true := by simp
    calc items [separator] (before ++ (first ++ separator :: rest ++ after))
        = items [separator]
            ((before ++ (first ++ [])) ++ separator :: ([] ++ (rest ++ after))) := by simp
      _ = items [separator] first ++ items [separator] rest := by
          rw [items_append, ihFirst blankBefore nothing, ihRest nothing blankAfter]
      _ = items [separator] (first ++ separator :: rest) := (items_append first rest).symm

end Items

end FeatLoom.Text
