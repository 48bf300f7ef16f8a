import FeatLoom.Selector

/-!
# The selector language

A selector is written as a function call. Blanks may stand before every bracket, comma and
argument; the letters of function names and flags may be of either case.

    SelectAbilities(list, count, max, label)
    SelectSkills(list, count[, label])
    SelectSkillsExpertise(list, count[, true|false])
    SelectPassives(list, count[, category])

A text of no such form is kept as an unknown selector, and so is every `SelectSpells` call.
-/

namespace FeatLoom.Selector

open Text (isBlank isDigit digitValue? ofDigits)

def hexValue? (c : Char) : Option Nat :=
  if '0' ≤ c && c ≤ '9' then some (c.toNat - 48)
  else if 'a' ≤ c && c ≤ 'f' then some (c.toNat - 87)
  else if 'A' ≤ c && c ≤ 'F' then some (c.toNat - 55)
  else none

def hexDigits? : Nat → List Char → Option (List Nat × List Char)
  | 0, text => some ([], text)
  | _ + 1, [] => none
  | width + 1, c :: rest => do
    let digit ← hexValue? c
    let (digits, left) ← hexDigits? width rest
    some (digit :: digits, left)

def skipHyphen : List Char → List Char
  | '-' :: rest => rest
  | text => text

def hexGroups? : List Nat → List Char → Option (List Nat × List Char)
  | [], text => some ([], text)
  | [width], text => hexDigits? width text
  | width :: widths, text => do
    let (digits, rest) ← hexDigits? width text
    let (more, left) ← hexGroups? widths (skipHyphen rest)
    some (digits ++ more, left)

def guidGroups : List Nat := [8, 4, 4, 4, 12]

def guid? (text : List Char) : Option (Guid × List Char) := do
  let (digits, rest) ← hexGroups? guidGroups (Text.trimLeft text)
  some (Guid.ofNat (ofDigits 16 digits), rest)

def run? (member : Char → Bool) (text : List Char) : Option (List Char × List Char) :=
  let start := Text.trimLeft text
  match start.takeWhile member with
  | [] => none
  | run => some (run, start.dropWhile member)

def number? (text : List Char) : Option (Nat × List Char) := do
  let (digits, rest) ← run? isDigit text
  some (ofDigits 10 (digits.filterMap digitValue?), rest)

/-- The characters of labels: ASCII letters, digits and the underscore, and the four characters
that count as an ASCII letter where case is disregarded. -/
def isLabelChar (c : Char) : Bool :=
  c.isAlphanum || c == '_' || c.toNat == 0x130 || c.toNat == 0x131 || c.toNat == 0x17F ||
    c.toNat == 0x212A

def label? (text : List Char) : Option (String × List Char) := do
  let (label, rest) ← run? isLabelChar text
  some (String.ofList label, rest)

def symbol? (symbol : Char) (text : List Char) : Option (List Char) :=
  match Text.trimLeft text with
  | c :: rest => if c = symbol then some rest else none
  | [] => none

/-- Whether a character stands for a letter of a function name: either case, and for `k` also
the Kelvin sign. -/
def fitsNameLetter (letter c : Char) : Bool :=
  c.toLower == letter.toLower || (letter.toLower == 'k' && c.toNat == 0x212A)

/-- Whether a character stands for a letter of a flag: either case, and for `s` also the long s. -/
def fitsFlagLetter (letter c : Char) : Bool :=
  c.toLower == letter.toLower || (letter.toLower == 's' && c.toNat == 0x17F)

def word? (fits : Char → Char → Bool) : List Char → List Char → Option (List Char)
  | [], text => some text
  | _ :: _, [] => none
  | letter :: word, c :: rest => if fits letter c then word? fits word rest else none

def flag? (text : List Char) : Option (Bool × List Char) :=
  let start := Text.trimLeft text
  match word? fitsFlagLetter "true".toList start with
  | some rest => some (true, rest)
  | none => (word? fitsFlagLetter "false".toList start).map (false, ·)

def close? (text : List Char) : Option Unit := do
  let rest ← symbol? ')' text
  if rest.isEmpty then some () else none

def lastArgument? {α : Type} (argument? : List Char → Option (α × List Char))
    (text : List Char) : Option (Option α) :=
  match symbol? ',' text with
  | none => (close? text).map fun _ => none
  | some rest => do
    let (value, rest) ← argument? rest
    close? rest
    some (some value)

def listAndCount? (name : String) (text : List Char) : Option (Guid × Nat × List Char) := do
  let rest ← word? fitsNameLetter name.toList text
  let rest ← symbol? '(' rest
  let (list, rest) ← guid? rest
  let rest ← symbol? ',' rest
  let (count, rest) ← number? rest
  some (list, count, rest)

def ability? (text : List Char) : Option Selector := do
  let (list, count, rest) ← listAndCount? "SelectAbilities" text
  let rest ← symbol? ',' rest
  let (max, rest) ← number? rest
  let rest ← symbol? ',' rest
  let (label, rest) ← label? rest
  close? rest
  some (.ability ⟨list, count, max, label⟩)

def skill? (text : List Char) : Option Selector := do
  let (list, count, rest) ← listAndCount? "SelectSkills" text
  let label ← lastArgument? label? rest
  some (.skill list count label)

def expertise? (text : List Char) : Option Selector := do
  let (list, count, rest) ← listAndCount? "SelectSkillsExpertise" text
  let flag ← lastArgument? flag? rest
  some (.expertise list count flag)

def passive? (text : List Char) : Option Selector := do
  let (list, count, rest) ← listAndCount? "SelectPassives" text
  let category ← lastArgument? label? rest
  some (.passive list count category)

def ofChars? (text : List Char) : Option Selector :=
  (ability? text).or <| (skill? text).or <| (expertise? text).or (passive? text)

/-- Reads one selector; blanks around it do not matter, and no text is refused. -/
def read (text : String) : Selector :=
  let trimmed := Text.trim text.toList
  (ofChars? trimmed).getD (.unknown (some (String.ofList trimmed)))

def readChain (text : Option String) : List Selector :=
  match text with
  | none => []
  | some text => (Text.itemsOf ';' text).map read

end FeatLoom.Selector
