import FeatLoom.Yaml.Cursor
import FeatLoom.Yaml.Error
import FeatLoom.Yaml.Scalar
import FeatLoom.Yaml.Token

/-!
# Tags, anchors and directives

The words that stand in front of values and documents. A tag may name a handle that a directive
explains, and characters in it may be written as bytes of their encoding after percent signs.
-/

namespace FeatLoom.Yaml.Token

def isNameChar (c : Char) : Bool := c.isAlphanum || c == '-' || c == '_'

def isTagChar (c : Char) : Bool :=
  c.isAlphanum || "-;/?:@&=+$,_.!~*'()[]%".toList.contains c

def atSpace (cursor : Cursor) : Bool := Cursor.endsOr (fun c => c == ' ' || isBreak c) cursor.rest

def name (cursor : Cursor) : Except Error (String × Cursor) :=
  match cursor.rest.takeWhile isNameChar with
  | [] => .error .malformed
  | letters => .ok (String.ofList letters, cursor.skip letters.length)

def escapedBytes : List Char → Except Error (List UInt8)
  | '%' :: a :: b :: rest =>
    if Scalar.isHex a && Scalar.isHex b then
      (escapedBytes rest).map ((Scalar.hexValue a * 16 + Scalar.hexValue b).toUInt8 :: ·)
    else .error .malformed
  | '%' :: _ => .error .malformed
  | _ => .ok []

def tagText : Nat → Cursor → Except Error (List Char × Cursor)
  | 0, cursor => .ok ([], cursor)
  | fuel + 1, cursor => do
    let plain := cursor.rest.takeWhile fun c => isTagChar c && c != '%'
    let after := cursor.skip plain.length
    if after.head? == some '%' then
      let bytes ← escapedBytes after.rest
      match String.fromUTF8? ⟨bytes.toArray⟩ with
      | none => throw .malformed
      | some escaped =>
        let (more, final) ← tagText fuel (after.skip (3 * bytes.length))
        return (plain ++ escaped.toList ++ more, final)
    else return (plain, after)

def properTagText (cursor : Cursor) : Except Error (String × Cursor) := do
  let (text, after) ← tagText (cursor.rest.length + 1) cursor
  if after.index == cursor.index then throw .malformed
  return (String.ofList text, after)

def tagHandle (cursor : Cursor) : Except Error (String × Cursor) :=
  match cursor.rest with
  | '!' :: ' ' :: _ => .ok ("!", cursor.next)
  | '!' :: rest =>
    let letters := rest.takeWhile isNameChar
    if (rest.drop letters.length).head? == some '!' then
      .ok (String.ofList ('!' :: letters ++ ['!']), cursor.skip (letters.length + 2))
    else .error .malformed
  | _ => .error .malformed

def readTag (cursor : Cursor) : Except Error (Token × Cursor) := do
  let (token, after) ← match cursor.next.head? with
    | some '<' => do
      let (suffix, after) ← properTagText (cursor.skip 2)
      if after.head? ≠ some '>' then throw .malformed
      pure (tag none suffix, after.next)
    | _ =>
      if Cursor.endsOr isGap cursor.next.rest then pure (tag none "!", cursor.next)
      else do
        let word := cursor.next.rest.takeWhile fun c => !(c == ' ' || isBreak c)
        let (handle, start) ←
          if word.contains '!' then tagHandle cursor else pure ("!", cursor.next)
        let (suffix, after) ← properTagText start
        pure (tag (some handle) suffix, after)
  if !atSpace after then throw .malformed
  return (token, after)

def endsName (c : Char) : Bool := isGap c || "?:,]\x7d%@`".toList.contains c

def readName (cursor : Cursor) : Except Error (String × Cursor) := do
  let (name, after) ← name cursor.next
  if !Cursor.endsOr endsName after.rest then throw .malformed
  return (name, after)

/-! ## Directives -/

def count (cursor : Cursor) : Except Error (Nat × Cursor) :=
  match cursor.rest.takeWhile Scalar.isDecimal with
  | [] => .error .malformed
  | digits =>
    .ok (Text.ofDigits 10 (digits.map Scalar.hexValue), cursor.skip digits.length)

def versionValue (cursor : Cursor) : Except Error (Token × Cursor) := do
  let (major, after) ← count (cursor.skipWhile (· == ' '))
  if after.head? ≠ some '.' then throw .malformed
  let (_, final) ← count after.next
  if !atSpace final then throw .malformed
  return (versionDirective major, final)

def handleValue (cursor : Cursor) : Except Error (Token × Cursor) := do
  let (name, after) ← tagHandle (cursor.skipWhile (· == ' '))
  if after.head? ≠ some ' ' then throw .malformed
  let (stem, final) ← properTagText (after.skipWhile (· == ' '))
  if !atSpace final then throw .malformed
  return (handleDirective name stem, final)

def readDirective (cursor : Cursor) : Except Error (Token × Cursor) := do
  let (word, after) ← name cursor.next
  if !atSpace after then throw .malformed
  let (token, after) ← match word with
    | "YAML" => versionValue after
    | "TAG" => handleValue after
    | _ => pure (otherDirective, after.toLineEnd)
  let after := after.skipWhile (· == ' ')
  let ended := if after.head? == some '#' then after.toLineEnd else after
  if !ended.atLineEnd then throw .malformed
  return (token, ended.next)

end FeatLoom.Yaml.Token
