import FeatLoom.Text.Blank
import FeatLoom.Text.Lines
import Mathlib.Data.List.Basic

/-!
# The lines of a text

A text is made of rows that are ended by line breaks of any kind; the last one may go without. Its
lines are such rows. Where a carriage return and a line feed come together by chance they make one
break instead of two, so the rows of a text are its lines up to empty ones. Lines on which nothing
is seen apart, the lines of two texts with a line break between them are those of the first text and
then those of the second one.
-/

namespace FeatLoom.Text

/-- A carriage return followed by a line feed counts as one break. -/
def IsLineEnd (mark : List Char) : Prop :=
  mark = ['\r', '\n'] ∨ ∃ c, isLineBreak c = true ∧ mark = [c]

inductive IsLined : List (List Char) → List Char → Prop where
  | nil : IsLined [] []
  | last {row : List Char} (unbroken : ∀ c ∈ row, isLineBreak c = false) : IsLined [row] row
  | cons {row mark text : List Char} {rows : List (List Char)}
      (unbroken : ∀ c ∈ row, isLineBreak c = false) (ends : IsLineEnd mark)
      (more : IsLined rows text) : IsLined (row :: rows) (row ++ (mark ++ text))

def isSeen (line : List Char) : Bool := line.any fun c => !isBlank c

def seenLines (text : List Char) : List (List Char) := (lines text).filter isSeen

theorem isSeen_eq_false_iff {line : List Char} :
    isSeen line = false ↔ ∀ c ∈ line, isBlank c = true := by
  simp [isSeen]

/-! ## One character after the other -/

section Characters

variable (started rest : List Char) {c : Char}

theorem linesAfter_other (inside : isLineBreak c = false) :
    linesAfter started (c :: rest) = linesAfter (c :: started) rest := by
  have noReturn : c ≠ '\r' := by
    intro same
    subst same
    exact absurd inside (by decide)
  rw [linesAfter.eq_3 _ _ _ fun _ same => absurd same noReturn, inside]
  rfl

theorem linesAfter_return_feed :
    linesAfter started ('\r' :: '\n' :: rest) = started.reverse :: lines rest := by
  rw [linesAfter, lines]

/-- A break ends a line, unless it is the first half of a pair. -/
theorem linesAfter_break (ends : isLineBreak c = true)
    (single : c = '\r' → ∀ others, rest ≠ '\n' :: others) :
    linesAfter started (c :: rest) = started.reverse :: lines rest := by
  rw [linesAfter.eq_3 _ _ _ fun others same next => single same others next, if_pos ends, lines]

/-- Of a pair nothing is seen between its halves, so every break ends a line that is seen. -/
theorem filter_linesAfter_break (ends : isLineBreak c = true) :
    (linesAfter started (c :: rest)).filter isSeen =
      [started.reverse].filter isSeen ++ seenLines rest := by
  by_cases pair : c = '\r' ∧ ∃ others, rest = '\n' :: others
  · obtain ⟨rfl, others, rfl⟩ := pair
    have between : seenLines ('\n' :: others) = seenLines others := by
      rw [seenLines, lines, linesAfter_break [] others (by decide) (by simp)]
      rfl
    rw [linesAfter_return_feed, between]
    exact List.filter_append [started.reverse] (lines others)
  · have single : c = '\r' → ∀ others, rest ≠ '\n' :: others :=
      fun same others next => pair ⟨same, others, next⟩
    rw [linesAfter_break started rest ends single]
    exact List.filter_append [started.reverse] (lines rest)

theorem filter_linesAfter_append (ends : isLineBreak c = true) (first second : List Char) :
    (linesAfter started (first ++ c :: second)).filter isSeen =
      (linesAfter started first).filter isSeen ++ seenLines second := by
  induction first generalizing started with
  | nil =>
    rw [List.nil_append, filter_linesAfter_break started second ends]
    congr 1
    cases started with
    | nil => rfl
    | cons _ _ => rfl
  | cons x first ih =>
    rw [List.cons_append]
    cases breaks : isLineBreak x with
    | true =>
      have later : seenLines (first ++ c :: second) = seenLines first ++ seenLines second := ih []
      rw [filter_linesAfter_break started _ breaks, filter_linesAfter_break started _ breaks,
        later, List.append_assoc]
    | false => rw [linesAfter_other started _ breaks, linesAfter_other started _ breaks, ih]

end Characters

/-! ## Rows -/

/-- The lines that are seen do not change where texts are put together at a line break. -/
theorem seenLines_append {mark : List Char} (ends : IsLineEnd mark) (first second : List Char) :
    seenLines (first ++ (mark ++ second)) = seenLines first ++ seenLines second := by
  obtain rfl | ⟨c, breaks, rfl⟩ := ends
  · have feed : seenLines ('\n' :: second) = seenLines second :=
      filter_linesAfter_append [] (by decide) [] second
    have whole : seenLines (first ++ '\r' :: '\n' :: second) =
        seenLines first ++ seenLines ('\n' :: second) :=
      filter_linesAfter_append [] (by decide) first _
    rw [← feed]
    exact whole
  · exact filter_linesAfter_append [] breaks first second

theorem linesAfter_unbroken {row : List Char} (unbroken : ∀ c ∈ row, isLineBreak c = false)
    (started : List Char) :
    linesAfter started row =
      if started.isEmpty && row.isEmpty then [] else [started.reverse ++ row] := by
  induction row generalizing started with
  | nil => cases started <;> simp [linesAfter]
  | cons c row ih =>
    rw [List.forall_mem_cons] at unbroken
    rw [linesAfter_other started row unbroken.1, ih unbroken.2]
    simp

theorem seenLines_unbroken {row : List Char} (unbroken : ∀ c ∈ row, isLineBreak c = false) :
    seenLines row = [row].filter isSeen := by
  rw [seenLines, lines, linesAfter_unbroken unbroken]
  cases row <;> rfl

/-- The rows of a text are its lines, as far as anything is seen on them. -/
theorem IsLined.seenLines_eq {rows : List (List Char)} {text : List Char}
    (lined : IsLined rows text) : seenLines text = rows.filter isSeen := by
  induction lined with
  | nil => rfl
  | last unbroken => exact seenLines_unbroken unbroken
  | @cons row mark text rows unbroken ends more ih =>
    rw [seenLines_append ends, seenLines_unbroken unbroken, ih]
    exact (List.filter_append [row] rows).symm

theorem isLined_linesAfter {started : List Char} (text : List Char)
    (unbroken : ∀ c ∈ started, isLineBreak c = false) :
    IsLined (linesAfter started text) (started.reverse ++ text) := by
  have reversed {row : List Char} (inside : ∀ c ∈ row, isLineBreak c = false) :
      ∀ c ∈ row.reverse, isLineBreak c = false :=
    fun c member => inside c (List.mem_reverse.1 member)
  -- The recursion takes a pair of breaks at once, so the induction is that of `linesAfter`.
  fun_induction linesAfter started text with
  | case1 started empty =>
    rw [List.isEmpty_iff.1 empty]
    exact .nil
  | case2 started more =>
    rw [List.append_nil]
    exact .last (reversed unbroken)
  | case3 started rest ih => exact .cons (reversed unbroken) (.inl rfl) (ih (by simp))
  | case4 started c rest _ breaks ih =>
    have ends : IsLineEnd [c] := .inr ⟨c, breaks, rfl⟩
    exact .cons (reversed unbroken) ends (ih (by simp))
  | case5 started c rest _ inside ih =>
    have grown : ∀ d ∈ c :: started, isLineBreak d = false :=
      List.forall_mem_cons.2 ⟨by simpa using inside, unbroken⟩
    simpa using ih grown

theorem isLined_lines (text : List Char) : IsLined (lines text) text :=
  isLined_linesAfter text (by simp)

end FeatLoom.Text
