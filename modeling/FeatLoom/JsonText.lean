import FeatLoom.Text.Digit

/-!
# Writing JSON

Documents of texts, lists and objects, written in one of two layouts: on one line, or with every
item on a line of its own and an indentation for each level. Texts are written in ASCII; a character
beyond the first plane is written as its two surrogates.
-/

namespace FeatLoom

inductive JsonText where
  | text (value : String)
  | list (items : List JsonText)
  | object (fields : List (String × JsonText))

namespace JsonText

def unitDigits (unit : Nat) : List Char :=
  let digits := Nat.toDigits 16 unit
  List.replicate (4 - digits.length) '0' ++ digits

def escapedUnit (unit : Nat) : List Char := '\\' :: 'u' :: unitDigits unit

def escaped (c : Char) : List Char :=
  match c with
  | '"' => ['\\', '"']
  | '\\' => ['\\', '\\']
  | '\n' => ['\\', 'n']
  | '\r' => ['\\', 'r']
  | '\t' => ['\\', 't']
  | _ =>
    let n := c.toNat
    if 0x20 ≤ n && n < 0x7F then [c]
    else if n = 0x08 then ['\\', 'b']
    else if n = 0x0C then ['\\', 'f']
    else if n < 0x10000 then escapedUnit n
    else
      escapedUnit (0xD800 + (n - 0x10000) / 0x400) ++ escapedUnit (0xDC00 + (n - 0x10000) % 0x400)

def quoted (text : String) : String := String.ofList ('"' :: text.toList.flatMap escaped ++ ['"'])

def lineStart (indent : Option Int) (level : Nat) : String :=
  match indent with
  | none => ""
  | some width => "\n" ++ String.ofList (List.replicate (width.toNat * level) ' ')

def enclosed (indent : Option Int) (level : Nat) (opening closing : String) (items : List String) :
    String :=
  if items.isEmpty then opening ++ closing
  else
    let separator := if indent.isSome then "," else ", "
    opening ++ lineStart indent (level + 1) ++
      (separator ++ lineStart indent (level + 1)).intercalate items ++
      lineStart indent level ++ closing

mutual

/-- A document that stands at a level. No indentation stands for a single line. -/
def renderAt (indent : Option Int) (level : Nat) : JsonText → String
  | text value => quoted value
  | list items => enclosed indent level "[" "]" (renderItems indent (level + 1) items)
  | object fields => enclosed indent level "\x7b" "\x7d" (renderFields indent (level + 1) fields)

def renderItems (indent : Option Int) (level : Nat) : List JsonText → List String
  | [] => []
  | item :: rest => renderAt indent level item :: renderItems indent level rest

def renderFields (indent : Option Int) (level : Nat) : List (String × JsonText) → List String
  | [] => []
  | (key, value) :: rest =>
    (quoted key ++ ": " ++ renderAt indent level value) :: renderFields indent level rest

end

def render (indent : Option Int) (document : JsonText) : String := renderAt indent 0 document

end JsonText

end FeatLoom
