import Mathlib.Data.Nat.Digits.Lemmas

/-!
# Numbers in texts

The decimal digits of a number tell the number, and no mark such as a comma is among them. So a name
and a number that are written with a comma between them can be told from the text, whatever the name
is.
-/

namespace FeatLoom.Text

/-- The digits that a number is written in have its value. -/
theorem exists_toDigits (base : Nat) (large : 1 < base) (n : Nat) :
    ∃ values : List Nat, values ≠ [] ∧ (∀ value ∈ values, value < base) ∧
      Nat.toDigits base n = values.map Nat.digitChar ∧ Nat.ofDigits base values.reverse = n := by
  induction n using Nat.strong_induction_on with
  | h n ih =>
    by_cases small : n < base
    · exact ⟨[n], by simp, by simpa, by simp [Nat.toDigits_of_lt_base small], by simp⟩
    · have most : base ≤ n := Nat.le_of_not_lt small
      have shorter : n / base < n := Nat.div_lt_self (by omega) large
      have last : n % base < base := Nat.mod_lt n (by omega)
      obtain ⟨values, _, below, written, denoted⟩ := ih (n / base) shorter
      refine ⟨values ++ [n % base], by simp, ?_, ?_, ?_⟩
      · simpa [or_imp, forall_and, last] using below
      · rw [Nat.toDigits_of_base_le large most, written, List.map_append]
        rfl
      · rw [List.reverse_concat, Nat.ofDigits_cons, denoted]
        exact Nat.mod_add_div n base

theorem toList_toString_nat (n : Nat) : (toString n).toList = Nat.toDigits 10 n := by
  rw [Nat.toString_eq_repr, Nat.toList_repr]

theorem isDigit_of_mem_toString {n : Nat} {c : Char} (member : c ∈ (toString n).toList) :
    c.isDigit = true := by
  rw [toList_toString_nat] at member
  exact Nat.isDigit_of_mem_toDigits (by decide) (by decide) member

theorem toString_nat_injective {m n : Nat} (same : toString m = toString n) : m = n := by
  have digits := congrArg String.toList same
  rw [toList_toString_nat, toList_toString_nat] at digits
  calc m = Nat.ofDigitChars 10 (Nat.toDigits 10 m) 0 := Nat.ofDigitChars_ten_toDigits.symm
    _ = Nat.ofDigitChars 10 (Nat.toDigits 10 n) 0 := by rw [digits]
    _ = n := Nat.ofDigitChars_ten_toDigits

theorem toList_toString_int (n : Int) : (toString n).toList =
    if 0 ≤ n then (toString n.toNat).toList else '-' :: (toString (-n).toNat).toList := by
  rw [Int.toString_eq_repr, Int.repr_eq_if]
  split <;> simp

theorem mark_not_mem_toString {mark : Char} (noDigit : mark.isDigit = false) (noSign : mark ≠ '-')
    (n : Int) : mark ∉ (toString n).toList := by
  have absent (m : Nat) : mark ∉ (toString m).toList := by
    intro member
    rw [isDigit_of_mem_toString member] at noDigit
    cases noDigit
  rw [toList_toString_int]
  split
  · exact absent _
  · exact List.not_mem_cons_of_ne_of_not_mem noSign (absent _)

theorem toString_int_injective {m n : Int} (same : toString m = toString n) : m = n := by
  have signs (a b : Nat) : (toString a).toList ≠ '-' :: (toString b).toList := by
    intro equal
    have member : '-' ∈ (toString a).toList := equal ▸ List.mem_cons_self
    exact absurd (isDigit_of_mem_toString member) (by decide)
  have shown := congrArg String.toList same
  rw [toList_toString_int, toList_toString_int] at shown
  by_cases positive : 0 ≤ m <;> by_cases positive' : 0 ≤ n
  · rw [if_pos positive, if_pos positive', String.toList_inj] at shown
    have magnitudes := toString_nat_injective shown
    omega
  · rw [if_pos positive, if_neg positive'] at shown
    exact absurd shown (signs _ _)
  · rw [if_neg positive, if_pos positive'] at shown
    exact absurd shown.symm (signs _ _)
  · rw [if_neg positive, if_neg positive', List.cons_inj_right, String.toList_inj] at shown
    have magnitudes := toString_nat_injective shown
    omega

/-- What stands before the last comma of a text and what stands after it. -/
theorem last_comma_unique {first second rest others : List Char} (noComma : ',' ∉ rest)
    (noComma' : ',' ∉ others) (same : first ++ ',' :: rest = second ++ ',' :: others) :
    first = second ∧ rest = others := by
  rcases List.append_eq_append_iff.1 same with ⟨more, rfl, split⟩ | ⟨more, rfl, split⟩
  · cases more with
    | nil => simpa using split
    | cons c more => simp_all
  · cases more with
    | nil => simpa using split.symm
    | cons c more => simp_all

/-- A name and a number can be read back from a text that has them with a comma between them. -/
theorem numbered_injective (mark : String) (quote : List Char) {start first second : String}
    (ends : mark.toList = quote ++ [',']) {m n : Int}
    (same : start ++ first ++ mark ++ toString m ++ ")" =
      start ++ second ++ mark ++ toString n ++ ")") : first = second ∧ m = n := by
  rw [String.append_left_inj] at same
  have lists := congrArg String.toList same
  simp only [String.toList_append, ends, List.append_assoc, List.append_cancel_left_eq,
    List.singleton_append] at lists
  rw [← List.append_assoc, ← List.append_assoc] at lists
  have noComma (n : Int) : ',' ∉ (toString n).toList :=
    mark_not_mem_toString (by decide) (by decide) n
  obtain ⟨names, numbers⟩ := last_comma_unique (noComma m) (noComma n) lists
  exact ⟨String.toList_inj.1 (List.append_cancel_right names),
    toString_int_injective (String.toList_inj.1 numbers)⟩

end FeatLoom.Text
