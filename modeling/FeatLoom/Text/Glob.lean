/-!
# Wildcard patterns

`*` stands for any run of characters, `?` for one character, and `[...]` for one character of a
set of characters and ranges, or outside of it after `!`. A bracket that is never closed stands
for itself. A pattern has to cover the whole name.
-/

namespace FeatLoom.Text

inductive GlobPart where
  | star
  | any
  | one (c : Char)
  | oneOf (negated : Bool) (ranges : List (Char × Char))
  deriving DecidableEq, Repr

namespace GlobPart

/-- The ranges of a bracket; a single character is a range of one. -/
def ranges : List Char → List (Char × Char)
  | low :: '-' :: high :: rest => (low, high) :: ranges rest
  | c :: rest => (c, c) :: ranges rest
  | [] => []

/-- The inside of a bracket and what follows it. A bracket closes at the first `]` that is not
its first member. -/
def bracket? (text : List Char) : Option (Bool × List Char × List Char) :=
  let (negated, inside) := match text with
    | '!' :: rest => (true, rest)
    | _ => (false, text)
  let (first, others) := match inside with
    | ']' :: rest => ([']'], rest)
    | _ => ([], inside)
  match others.dropWhile (· ≠ ']') with
  | _ :: rest => some (negated, first ++ others.takeWhile (· ≠ ']'), rest)
  | [] => none

theorem length_dropWhile_le (p : Char → Bool) (text : List Char) :
    (text.dropWhile p).length ≤ text.length :=
  (List.dropWhile_sublist p).length_le

theorem bracket?_shorter {text inside rest : List Char} {negated : Bool}
    (found : bracket? text = some (negated, inside, rest)) : rest.length < text.length := by
  simp only [bracket?] at found
  split at found <;> rename_i cut <;> simp at found
  obtain ⟨-, -, rfl⟩ := found
  have shorter := congrArg List.length cut
  have bound := length_dropWhile_le (fun c => decide (c ≠ ']'))
  revert shorter
  rcases text with _ | ⟨c, tail⟩
  · simp
  · intro shorter
    by_cases bang : c = '!'
    · subst bang
      rcases tail with _ | ⟨d, more⟩
      · simp at shorter
      · by_cases close : d = ']'
        · subst close
          have := bound more
          simp at shorter this ⊢
          omega
        · have := bound (d :: more)
          simp [close] at shorter this ⊢
          omega
    · by_cases close : c = ']'
      · subst close
        have := bound tail
        simp at shorter this ⊢
        omega
      · have := bound (c :: tail)
        simp [bang, close] at shorter this ⊢
        omega

def ofPattern (pattern : List Char) : List GlobPart :=
  match pattern with
  | [] => []
  | '*' :: rest => .star :: ofPattern rest
  | '?' :: rest => .any :: ofPattern rest
  | '[' :: rest =>
    match _found : bracket? rest with
    | some (negated, inside, after) => .oneOf negated (ranges inside) :: ofPattern after
    | none => .one '[' :: ofPattern rest
  | c :: rest => .one c :: ofPattern rest
termination_by pattern.length
decreasing_by
  · simp
  · simp
  · have := bracket?_shorter _found
    simp only [List.length_cons]
    omega
  · simp
  · simp

def accepts : GlobPart → Char → Bool
  | .star, _ => true
  | .any, _ => true
  | .one d, c => d == c
  | .oneOf negated set, c =>
    (set.any fun range => range.1 ≤ c && c ≤ range.2) != negated

/-- What holds of a text or of something left after dropping characters from its front, for the
text and for each of these. -/
def someLater : List Bool → List Bool
  | [] => []
  | here :: later =>
    let further := someLater later
    (here || further.head?.getD false) :: further

/-- For a text, and for what is left after dropping each of its characters: whether a pattern covers
it, given the same about the pattern without its first element. -/
def coversStep (part : GlobPart) (text : List Char) (rest : List Bool) : List Bool :=
  match part with
  | .star => someLater rest
  | part => List.zipWith (fun c covered => part.accepts c && covered) text rest.tail ++ [false]

/-- For a text, and for what is left after dropping each of its characters: whether a pattern
covers it. -/
def coverage (text : List Char) : List GlobPart → List Bool
  | [] => text.map (fun _ => false) ++ [true]
  | part :: rest => coversStep part text (coverage text rest)

def covers (pattern : List GlobPart) (text : List Char) : Bool :=
  (coverage text pattern).head?.getD false

end GlobPart

def globMatches (pattern name : String) : Bool :=
  GlobPart.covers (GlobPart.ofPattern pattern.toList) name.toList

example : globMatches "*.zip" "a.b.zip" = true := by decide +kernel
example : globMatches "[!a-c]?" "b1" = false := by decide +kernel
example : globMatches "[]x" "[]x" = true := by decide +kernel

end FeatLoom.Text
