import FeatLoom.Text.Glob
import FeatLoom.Text.Split

/-!
# Patterns that ask for a beginning

What a pattern covers of a text goes element by element. A pattern that is a text without wildcards
and a star at its end covers the names that begin with the text.
-/

namespace FeatLoom.Text

namespace GlobPart

theorem length_someLater (covered : List Bool) : (someLater covered).length = covered.length := by
  induction covered with
  | nil => rfl
  | cons here later ih => rw [someLater, List.length_cons, List.length_cons, ih]

theorem length_coverage (text : List Char) (pattern : List GlobPart) :
    (coverage text pattern).length = text.length + 1 := by
  induction pattern with
  | nil => simp [coverage]
  | cons part rest ih =>
    cases part with
    | star => rw [coverage, coversStep, length_someLater, ih]
    | _ => simp [coverage, coversStep, ih]

theorem coverage_eq_cons (text : List Char) (pattern : List GlobPart) :
    coverage text pattern = covers pattern text :: (coverage text pattern).tail := by
  have length := length_coverage text pattern
  unfold covers
  cases covered : coverage text pattern with
  | nil => simp [covered] at length
  | cons here later => rfl

/-- What a pattern covers after the first character is what it covers of the rest. -/
theorem tail_coverage (c : Char) (text : List Char) (pattern : List GlobPart) :
    (coverage (c :: text) pattern).tail = coverage text pattern := by
  induction pattern with
  | nil => rfl
  | cons part rest ih =>
    have whole := coverage_eq_cons (c :: text) rest
    have later := coverage_eq_cons text rest
    rw [ih] at whole
    cases part with
    | star => rw [coverage, coverage, coversStep, coversStep, whole, someLater, List.tail_cons]
    | _ =>
      simp only [coverage, coversStep, ih]
      rw [later, List.zipWith_cons_cons, List.cons_append, List.tail_cons, List.tail_cons]

theorem covers_one_cons (d c : Char) (rest : List GlobPart) (text : List Char) :
    covers (.one d :: rest) (c :: text) = (d == c && covers rest text) := by
  rw [covers, coverage]
  simp only [coversStep, tail_coverage]
  rw [coverage_eq_cons text rest]
  rfl

theorem covers_one_nil (d : Char) (rest : List GlobPart) : covers (.one d :: rest) [] = false := by
  simp [covers, coverage, coversStep]

theorem covers_star (text : List Char) : covers [.star] text = true := by
  have last (covered : List Bool) : (someLater (covered ++ [true])).head? = some true := by
    induction covered with
    | nil => rfl
    | cons here later ih => simp [someLater, ih]
  rw [covers, coverage, coversStep, coverage, last, Option.getD_some]

def IsPlain (mark : List Char) : Prop := ∀ c ∈ mark, c ≠ '*' ∧ c ≠ '?' ∧ c ≠ '['

instance (mark : List Char) : Decidable (IsPlain mark) :=
  decidable_of_iff (mark.all fun c => c != '*' && c != '?' && c != '[')
    (by simp [IsPlain, and_assoc])

theorem ofPattern_cons {c : Char} (plain : c ≠ '*' ∧ c ≠ '?' ∧ c ≠ '[') (rest : List Char) :
    ofPattern (c :: rest) = .one c :: ofPattern rest := by
  rw [ofPattern]
  · exact plain.1
  · exact plain.2.1
  · exact plain.2.2

theorem covers_concat_star {mark : List Char} (plain : IsPlain mark) (text : List Char) :
    covers (ofPattern (mark ++ ['*'])) text = mark.isPrefixOf text := by
  induction mark generalizing text with
  | nil =>
    rw [List.nil_append, ofPattern, ofPattern, covers_star, List.isPrefixOf_nil_left]
  | cons c mark ih =>
    rw [IsPlain, List.forall_mem_cons] at plain
    rw [List.cons_append, ofPattern_cons plain.1]
    cases text with
    | nil => rw [covers_one_nil, List.isPrefixOf_cons_nil]
    | cons d text => rw [covers_one_cons, ih plain.2, List.isPrefixOf_cons_cons]

end GlobPart

theorem globMatches_concat_star {mark : String} (plain : GlobPart.IsPlain mark.toList)
    (name : String) :
    globMatches (mark ++ "*") name = mark.toList.isPrefixOf name.toList := by
  rw [globMatches, String.toList_append]
  exact GlobPart.covers_concat_star plain name.toList

/-- A text without wildcards has no two stars together, not even with one at its end. -/
theorem holds_stars {mark : List Char} (plain : GlobPart.IsPlain mark) :
    holds ['*', '*'] (mark ++ ['*']) = false := by
  induction mark with
  | nil => rfl
  | cons c mark ih =>
    rw [GlobPart.IsPlain, List.forall_mem_cons] at plain
    have other : ('*' == c) = false := beq_eq_false_iff_ne.2 plain.1.1.symm
    rw [List.cons_append, holds, ih plain.2, List.isPrefixOf_cons_cons, other]
    rfl

end FeatLoom.Text
