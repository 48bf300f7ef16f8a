import FeatLoom.Text.Lines
import FeatLoom.Text.Split

/-!
# Lines and pieces

What holds of all characters of some texts holds of all characters of the joined text. Rows without
line breaks come back as the lines of the text in which each of them is ended by a line feed.
Cutting at a single character is the cutting of lists, and the pieces of texts that are joined by
the character are those of the texts, one after the other.
-/

namespace FeatLoom.Text

theorem forall_mem_append {p : Char → Prop} {first second : String}
    (one : ∀ c ∈ first.toList, p c) (two : ∀ c ∈ second.toList, p c) :
    ∀ c ∈ (first ++ second).toList, p c := by
  rw [String.toList_append]
  exact List.forall_mem_append.2 ⟨one, two⟩

theorem forall_mem_intercalate {p : Char → Prop} {between : String} {texts : List String}
    (joint : ∀ c ∈ between.toList, p c) (all : ∀ text ∈ texts, ∀ c ∈ text.toList, p c) :
    ∀ c ∈ (between.intercalate texts).toList, p c := by
  induction texts with
  | nil => exact fun c member => absurd member List.not_mem_nil
  | cons text texts ih =>
    rw [List.forall_mem_cons] at all
    cases texts with
    | nil => exact String.intercalate_singleton ▸ all.1
    | cons next others =>
      rw [String.intercalate_cons_cons]
      exact forall_mem_append (forall_mem_append all.1 joint) (ih all.2)

theorem linesAfter_append {row : List Char} (unbroken : ∀ c ∈ row, isLineBreak c = false)
    (started rest : List Char) :
    linesAfter started (row ++ rest) = linesAfter (row.reverse ++ started) rest := by
  induction row generalizing started with
  | nil => rfl
  | cons c row ih =>
    rw [List.forall_mem_cons] at unbroken
    have noReturn : c ≠ '\r' := by
      rintro rfl
      exact absurd unbroken.1 (by decide)
    have step : linesAfter started (c :: (row ++ rest)) = linesAfter (c :: started) (row ++ rest) := by
      rw [linesAfter.eq_3 _ _ _ fun _ same => absurd same noReturn, unbroken.1]
      rfl
    rw [List.cons_append, step, ih unbroken.2, List.reverse_cons, List.append_assoc]
    rfl

theorem lines_flatMap {rows : List (List Char)}
    (unbroken : ∀ row ∈ rows, ∀ c ∈ row, isLineBreak c = false) :
    lines (rows.flatMap (· ++ ['\n'])) = rows := by
  induction rows with
  | nil => rfl
  | cons row rows ih =>
    rw [List.forall_mem_cons] at unbroken
    have feed (started rest : List Char) :
        linesAfter started ('\n' :: rest) = started.reverse :: lines rest := rfl
    rw [List.flatMap_cons, List.append_assoc, lines, linesAfter_append unbroken.1,
      List.append_nil, List.singleton_append, feed, List.reverse_reverse, ih unbroken.2]

theorem piecesAfter_singleton (separator : Char) (piece text : List Char) :
    piecesAfter [separator] 0 piece text =
      (text.splitOn separator).modifyHead (piece.reverse ++ ·) := by
  induction text generalizing piece with
  | nil => simp [piecesAfter]
  | cons c text ih =>
    rw [List.splitOn_cons_eq_if_modifyHead, piecesAfter]
    by_cases same : c = separator
    · subst same
      have rest : piecesAfter [c] 0 [] text = text.splitOn c := by
        rw [ih, List.reverse_nil]
        exact congrFun List.modifyHead_id _
      simp [rest]
    · have other : [separator].isPrefixOf (c :: text) = false := by
        simpa [List.isPrefixOf] using fun h : separator = c => same h.symm
      rw [other, if_neg Bool.false_ne_true, ih, if_neg (by simpa using same),
        List.modifyHead_modifyHead]
      congr 1
      funext rest
      rw [List.reverse_cons, List.append_assoc]
      rfl

/-- Cutting at one character is the cutting of lists. -/
theorem splitOn_singleton (separator : Char) (text : List Char) :
    splitOn [separator] text = text.splitOn separator := by
  rw [splitOn, piecesAfter_singleton, List.reverse_nil]
  exact congrFun List.modifyHead_id _

theorem splitOn_intercalate (separator : Char) {texts : List (List Char)} (some : texts ≠ []) :
    ([separator].intercalate texts).splitOn separator =
      texts.flatMap fun text => text.splitOn separator := by
  induction texts with
  | nil => exact absurd rfl some
  | cons text texts ih =>
    cases texts with
    | nil => simp
    | cons next others =>
      rw [List.intercalate_cons_cons, List.append_assoc, List.singleton_append,
        List.splitOn_append_cons_self, ih (List.cons_ne_nil _ _), List.flatMap_cons]
      rfl

end FeatLoom.Text
