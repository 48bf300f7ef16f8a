import FeatLoom.Yaml.Error
import FeatLoom.Yaml.Scalar
import FeatLoom.Yaml.Token.Plain

/-!
# Quoted scalars

Between single quotes a quote is written twice; between double quotes a backslash begins an escape.
A line break inside is folded: with the blanks around it, it reads as one space, and further breaks
stay as they are. An escaped line break reads as nothing. No document may begin or end inside.

Characters beyond U+FFFF may be escaped in two halves, as in UTF-16, so a scalar is read as codes
first.
-/

namespace FeatLoom.Yaml.Quoted

def letterEscapes : List (Char × Nat) := [
  ('0', 0x00), ('a', 0x07), ('b', 0x08), ('t', 0x09), ('\t', 0x09), ('n', 0x0A), ('v', 0x0B),
  ('f', 0x0C), ('r', 0x0D), ('e', 0x1B), (' ', 0x20), ('"', 0x22), ('\\', 0x5C), ('/', 0x2F),
  ('N', 0x85), ('_', 0xA0), ('L', 0x2028), ('P', 0x2029)]

def numericEscape? : Char → Option Nat
  | 'x' => some 2
  | 'u' => some 4
  | 'U' => some 8
  | _ => none

def greatestCharacter : Nat := 0x10FFFF

def greatestCount : Nat := 0x7FFFFFFF

/-- Refuses a code that no character has. Halves of characters are let pass. -/
def checkCode (code : Nat) : Except Error Unit :=
  if greatestCount < code then .error .hugeCharacter
  else if greatestCharacter < code then .error .noCharacter
  else .ok ()

/-! ## Codes -/

def isHighHalf (code : Nat) : Bool := 0xD800 ≤ code && code < 0xDC00

def isLowHalf (code : Nat) : Bool := 0xDC00 ≤ code && code < 0xE000

def replacement : Char := Char.ofNat 0xFFFD

def ofCodes : List Nat → List Char
  | [] => []
  | [code] => [if isHighHalf code || isLowHalf code then replacement else Char.ofNat code]
  | code :: next :: rest =>
    if isHighHalf code && isLowHalf next then
      Char.ofNat (0x10000 + (code - 0xD800) * 0x400 + (next - 0xDC00)) :: ofCodes rest
    else (if isHighHalf code || isLowHalf code then replacement else Char.ofNat code) ::
      ofCodes (next :: rest)

/-! ## Reading -/

inductive Mode where
  /-- After text; the blanks that may belong to a fold, last first. -/
  | text (blanks : List Char)
  /-- After a line break, if it counts, and the breaks that followed it, last first. -/
  | lines (first : Option Char) (breaks : List Char)
  | escape
  | code (owed value : Nat)
  | quote

def Mode.release : Mode → List Char
  | text blanks => blanks.reverse
  | lines (some first) breaks => folded first breaks.reverse
  | lines none breaks => breaks.reverse.map foldedBreak
  | _ => []

abbrev Reading := Except Error (List Nat × List Char)

def behindCode (code : Nat) (reading : Reading) : Reading :=
  reading.map fun (codes, left) => (code :: codes, left)

def behind (before : List Char) (reading : Reading) : Reading :=
  reading.map fun (codes, left) => (before.map Char.toNat ++ codes, left)

def ending (last left : List Char) : Reading := .ok (last.map Char.toNat, left)

/-- The way of reading after a blank or a break; there is none where a document ends. -/
def afterGap? (mode : Mode) (c : Char) (rest : List Char) : Option Mode :=
  if isBreak c then
    if Cursor.isDocumentMark rest then none
    else
      match mode with
      | .lines first breaks => some (.lines first (c :: breaks))
      | .escape => some (.lines none [])
      | _ => some (.lines (some c) [])
  else
    match mode with
    | .text blanks => some (.text (c :: blanks))
    | mode => some mode

def double (mode : Mode) : List Char → Reading
  | [] => .error .malformed
  | c :: rest =>
    match mode with
    | .escape =>
      if isBreak c then
        match afterGap? .escape c rest with
        | some next => double next rest
        | none => .error .malformed
      else
        match letterEscapes.lookup c, numericEscape? c with
        | some code, _ => behindCode code (double (.text []) rest)
        | none, some digits => double (.code digits 0) rest
        | none, none => .error .malformed
    | .code owed value =>
      if !Scalar.isHex c then .error .malformed
      else
        let value := value * 16 + Scalar.hexValue c
        if 1 < owed then double (.code (owed - 1) value) rest
        else
          match checkCode value with
          | .ok () => behindCode value (double (.text []) rest)
          | .error fault => .error fault
    | mode =>
      if isGap c then
        match afterGap? mode c rest with
        | some next => double next rest
        | none => .error .malformed
      else if c == '"' then ending mode.release rest
      else if c == '\\' then behind mode.release (double .escape rest)
      else behind (mode.release ++ [c]) (double (.text []) rest)

def single (mode : Mode) : List Char → Reading
  | [] =>
    match mode with
    | .quote => ending [] []
    | _ => .error .malformed
  | c :: rest =>
    match mode with
    | .quote =>
      if c == '\x27' then behind [c] (single (.text []) rest) else ending [] (c :: rest)
    | mode =>
      if isGap c then
        match afterGap? mode c rest with
        | some next => single next rest
        | none => .error .malformed
      else if c == '\x27' then behind mode.release (single .quote rest)
      else behind (mode.release ++ [c]) (single (.text []) rest)

def read (quote : Char) (cursor : Cursor) : Except Error (String × Cursor) := do
  let inside := cursor.next
  let (codes, left) ← if quote == '"' then double (.text []) inside.rest
    else single (.text []) inside.rest
  return (String.ofList (ofCodes codes), inside.skipTo left)

end FeatLoom.Yaml.Quoted
