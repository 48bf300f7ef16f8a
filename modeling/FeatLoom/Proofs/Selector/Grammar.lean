import FeatLoom.Selector
import Mathlib.Data.List.Forall2
import Mathlib.Data.Nat.Digits.Defs

/-!
# The grammar of selectors

What a call denotes, said without reading it. A form is a chain of pieces, each of them after any
number of blanks, and the value of a form is made of the values of its pieces. Blanks and decimal
digits are those of Unicode.
-/

namespace FeatLoom.Selector

open Text (isBlank digitValue?)

/-! ## Pieces -/

def NameLetter (letter c : Char) : Prop :=
  c.toLower = letter.toLower ∨ letter.toLower = 'k' ∧ c.toNat = 0x212A

/-- The letters of flags in any case. The long s is a small letter with the capital `S`. -/
def FlagLetter (letter c : Char) : Prop :=
  c.toLower = letter.toLower ∨ letter.toLower = 's' ∧ c.toNat = 0x17F

/-- Labels are made of these; the last four are letters that differ from an ASCII letter in case
only. -/
def LabelChar (c : Char) : Prop :=
  c.isAlphanum ∨ c = '_' ∨ c.toNat ∈ [0x130, 0x131, 0x17F, 0x212A]

def HexDigit (c : Char) (value : Nat) : Prop :=
  value < 16 ∧ (c = Nat.digitChar value ∨ c = (Nat.digitChar value).toUpper)

inductive HexGroups : List Nat → List Nat → List Char → Prop where
  | last {values : List Nat} {digits : List Char} (spelled : List.Forall₂ HexDigit digits values) :
      HexGroups [digits.length] values digits
  | group {size : Nat} {sizes values more : List Nat} {digits hyphen text : List Char}
      (spelled : List.Forall₂ HexDigit digits values) (optional : hyphen = [] ∨ hyphen = ['-'])
      (others : HexGroups (size :: sizes) more text) :
      HexGroups (digits.length :: size :: sizes) (values ++ more) (digits ++ (hyphen ++ text))

def IsGuid (list : Guid) (piece : List Char) : Prop :=
  ∃ values, HexGroups [8, 4, 4, 4, 12] values piece ∧
    list = Guid.ofNat (Nat.ofDigits 16 values.reverse)

def IsNumber (n : Nat) (piece : List Char) : Prop :=
  piece ≠ [] ∧ ∃ values, List.Forall₂ (fun c value => digitValue? c = some value) piece values ∧
    n = Nat.ofDigits 10 values.reverse

def IsLabel (label : String) (piece : List Char) : Prop :=
  piece ≠ [] ∧ (∀ c ∈ piece, LabelChar c) ∧ label = String.ofList piece

def IsFlag (flag : Bool) (piece : List Char) : Prop :=
  List.Forall₂ FlagLetter (if flag then "true" else "false").toList piece

/-! ## Chains -/

def Spaced (piece next : List Char → Prop) (text : List Char) : Prop :=
  ∃ blanks start rest, (∀ c ∈ blanks, isBlank c = true) ∧ piece start ∧ next rest ∧
    text = blanks ++ (start ++ rest)

def Symbol (c : Char) (piece : List Char) : Prop := piece = [c]

def Closed : List Char → Prop := Spaced (Symbol ')') (· = [])

def LastArgument {α : Type} (argument : α → List Char → Prop) : Option α → List Char → Prop
  | none => Closed
  | some value => Spaced (Symbol ',') (Spaced (argument value) Closed)

def Call (name : String) (list : Guid) (count : Nat) (next : List Char → Prop)
    (text : List Char) : Prop :=
  ∃ start rest, List.Forall₂ NameLetter name.toList start ∧ text = start ++ rest ∧
    Spaced (Symbol '(')
      (Spaced (IsGuid list) (Spaced (Symbol ',') (Spaced (IsNumber count) next))) rest

/-- The texts of the four forms and what they denote. -/
inductive Denotes : Selector → List Char → Prop where
  | ability {list : Guid} {count max : Nat} {label : String} {text : List Char}
      (call : Call "SelectAbilities" list count
        (Spaced (Symbol ',') (Spaced (IsNumber max)
          (Spaced (Symbol ',') (Spaced (IsLabel label) Closed)))) text) :
      Denotes (.ability ⟨list, count, max, label⟩) text
  | skill {list : Guid} {count : Nat} {label : Option String} {text : List Char}
      (call : Call "SelectSkills" list count (LastArgument IsLabel label) text) :
      Denotes (.skill list count label) text
  | expertise {list : Guid} {count : Nat} {flag : Option Bool} {text : List Char}
      (call : Call "SelectSkillsExpertise" list count (LastArgument IsFlag flag) text) :
      Denotes (.expertise list count flag) text
  | passive {list : Guid} {count : Nat} {category : Option String} {text : List Char}
      (call : Call "SelectPassives" list count (LastArgument IsLabel category) text) :
      Denotes (.passive list count category) text

end FeatLoom.Selector
