import FeatLoom.StatEntry.Reader
import Mathlib.Data.List.TakeWhile

/-!
# The grammar of stat lines

What a line says, told without reading it. All forms end in a phrase, a word and a quoted text with
blanks between them, and in data after that; blanks may follow. A header fills its line, and on
other lines anything may stand before the word. A line of no such form says nothing.
-/

namespace FeatLoom.StatLine

open Text (isBlank)

def AreBlank (text : List Char) : Prop := ∀ c ∈ text, isBlank c = true

def IsGap (text : List Char) : Prop := text ≠ [] ∧ AreBlank text

def IsQuotable (text : List Char) : Prop := text ≠ [] ∧ '"' ∉ text

def inQuotes (text : List Char) : List Char := '"' :: (text ++ ['"'])

def Phrase (word : String) (text rest line : List Char) : Prop :=
  ∃ gap, IsGap gap ∧ IsQuotable text ∧ line = word.toList ++ (gap ++ (inQuotes text ++ rest))

inductive HasForm : StatLine → List Char → Prop where
  | header {name gap after line : List Char} (apart : IsGap gap) (blank : AreBlank after)
      (phrase : Phrase "entry" name after line) :
      HasForm (.header (String.ofList name)) ("new".toList ++ (gap ++ line))
  | parent {name before after line : List Char} (blank : AreBlank after)
      (phrase : Phrase "using" name after line) :
      HasForm (.parent (String.ofList name)) (before ++ line)
  | entryType {name before after line : List Char} (blank : AreBlank after)
      (phrase : Phrase "type" name after line) :
      HasForm (.entryType (String.ofList name)) (before ++ line)
  | data {key values before gap after line : List Char} (apart : IsGap gap)
      (given : IsQuotable values) (blank : AreBlank after)
      (phrase : Phrase "data" key (gap ++ (inQuotes values ++ after)) line) :
      HasForm (.data (String.ofList key) ((values.splitOn ';').map String.ofList)) (before ++ line)

/-- What a line means: what its form says, or nothing if it has none. -/
def Means (line : List Char) (said : StatLine) : Prop :=
  HasForm said line ∨ said = .other ∧ ∀ form, ¬ HasForm form line

theorem Phrase.append {word : String} {text rest line : List Char}
    (phrase : Phrase word text rest line) (more : List Char) :
    Phrase word text (rest ++ more) (line ++ more) := by
  obtain ⟨gap, apart, given, rfl⟩ := phrase
  exact ⟨gap, apart, given, by simp only [List.append_assoc]⟩

theorem areBlank_nil : AreBlank [] := List.forall_mem_nil _

theorem AreBlank.append {first second : List Char} (one : AreBlank first) (two : AreBlank second) :
    AreBlank (first ++ second) := List.forall_mem_append.2 ⟨one, two⟩

theorem AreBlank.reverse {text : List Char} (blank : AreBlank text) : AreBlank text.reverse :=
  fun c member => blank c (List.mem_reverse.1 member)

theorem isGap_space : IsGap [' '] := ⟨List.cons_ne_nil _ _, List.forall_mem_singleton.2 rfl⟩

theorem IsGap.reverse {text : List Char} (gap : IsGap text) : IsGap text.reverse :=
  ⟨mt List.reverse_eq_nil_iff.1 gap.1, gap.2.reverse⟩

end FeatLoom.StatLine
