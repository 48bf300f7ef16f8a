import FeatLoom.Proofs.Selector.Grammar
import FeatLoom.Selector.Reader

/-!
# The characters of selectors

The reader and the grammar have the same classes of characters, and a blank belongs to none of
them. There are few blanks and few hexadecimal digits, so what holds of each of them is checked one
by one.
-/

namespace FeatLoom.Selector

open Text (isBlank isDigit digitValue?)

theorem forall_char_below {bound : Nat} {p : Char → Prop} (all : ∀ n < bound, p (Char.ofNat n))
    {c : Char} (below : c.toNat < bound) : p c := by
  have known := all c.toNat below
  rwa [Char.ofNat_toNat] at known

def blankPoints : List Nat := [
  0x09, 0x0A, 0x0B, 0x0C, 0x0D, 0x1C, 0x1D, 0x1E, 0x1F, 0x20, 0x85, 0xA0, 0x1680, 0x2000, 0x2001,
  0x2002, 0x2003, 0x2004, 0x2005, 0x2006, 0x2007, 0x2008, 0x2009, 0x200A, 0x2028, 0x2029, 0x202F,
  0x205F, 0x3000]

theorem forall_isBlank {p : Char → Prop} (all : ∀ n ∈ blankPoints, p (Char.ofNat n)) {c : Char}
    (blank : isBlank c = true) : p c := by
  have listed : c.toNat ∈ blankPoints := by
    simp only [isBlank, Bool.or_eq_true, Bool.and_eq_true, decide_eq_true_eq, beq_iff_eq] at blank
    simp only [blankPoints, List.mem_cons, List.not_mem_nil, or_false]
    omega
  have known := all c.toNat listed
  rwa [Char.ofNat_toNat] at known

theorem isDigit_of_isBlank {c : Char} (blank : isBlank c = true) : isDigit c = false :=
  forall_isBlank (p := fun c => isDigit c = false) (by decide) blank

theorem isLabelChar_of_isBlank {c : Char} (blank : isBlank c = true) : isLabelChar c = false :=
  forall_isBlank (p := fun c => isLabelChar c = false) (by decide) blank

theorem hexValue?_of_isBlank {c : Char} (blank : isBlank c = true) : hexValue? c = none :=
  forall_isBlank (p := fun c => hexValue? c = none) (by decide) blank

theorem hexValue?_eq_some_iff {c : Char} {value : Nat} :
    hexValue? c = some value ↔ HexDigit c value := by
  constructor
  · intro found
    have below : c.toNat < 103 := by
      by_contra far
      have after (last : Char) (near : last.toNat < 103) : ¬ c ≤ last := fun before =>
        absurd (Nat.lt_of_le_of_lt before near) far
      have none : hexValue? c = none := by
        simp [hexValue?, after '9' (by decide), after 'f' (by decide), after 'F' (by decide)]
      exact Option.some_ne_none value (found.symm.trans none)
    have listed : ∀ n < 103, ∀ value ∈ hexValue? (Char.ofNat n),
        value < 16 ∧ (Char.ofNat n = Nat.digitChar value ∨
          Char.ofNat n = (Nat.digitChar value).toUpper) := by decide
    exact forall_char_below (p := fun c => ∀ value ∈ hexValue? c, HexDigit c value) listed below
      value found
  · rintro ⟨small, digit⟩
    have both : ∀ n < 16, hexValue? (Nat.digitChar n) = some n ∧
        hexValue? (Nat.digitChar n).toUpper = some n := by decide
    obtain rfl | rfl := digit
    · exact (both value small).1
    · exact (both value small).2

theorem isLabelChar_iff {c : Char} : isLabelChar c = true ↔ LabelChar c := by
  simp [isLabelChar, LabelChar, or_assoc]

theorem fitsNameLetter_iff {letter c : Char} :
    fitsNameLetter letter c = true ↔ NameLetter letter c := by
  simp [fitsNameLetter, NameLetter]

theorem fitsFlagLetter_iff {letter c : Char} :
    fitsFlagLetter letter c = true ↔ FlagLetter letter c := by
  simp [fitsFlagLetter, FlagLetter]

end FeatLoom.Selector
