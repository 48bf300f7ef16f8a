import FeatLoom.Text.Utf8
import FeatLoom.Xml.Character
import FeatLoom.Xml.Encoding.Name

/-!
# Encodings of XML documents

A document is UTF-16 when it starts with a byte order mark or with a zero among its first two bytes.
All other documents have an encoding that agrees with ASCII where their declaration names it, and
UTF-8 if it names none. A declaration may name no encoding with units of another width.
-/

namespace FeatLoom.Xml

structure Decoded where
  text : List Char
  alphabet : Alphabet
  isAlone : Bool
  size : Nat

/-! ## The declaration -/

/-- Takes a field `name="value"` after white space. There is none when only white space is left,
and the declaration is malformed when anything else is. -/
def declarationField? (text : List Char) : Option (Option (String × String) × List Char) :=
  match text.dropWhile isSpace with
  | [] => some (none, [])
  | start =>
    if start.length = text.length then none
    else
      let isNameEnd (c : Char) : Bool := c == '=' || isSpace c
      let name := start.takeWhile fun c => !isNameEnd c
      match name, (start.dropWhile fun c => !isNameEnd c).dropWhile isSpace with
      | _ :: _, '=' :: rest =>
        match rest.dropWhile isSpace with
        | quote :: value =>
          if quote == '"' || quote == '\x27' then
            let isValueChar (c : Char) : Bool :=
              c.isAlphanum || c == '.' || c == '-' || c == '_'
            match value.dropWhile isValueChar with
            | close :: left =>
              if close == quote then
                some (some (String.ofList name, String.ofList (value.takeWhile isValueChar)), left)
              else none
            | [] => none
          else none
        | [] => none
      | _, _ => none

structure Declaration where
  encoding : Option String := none
  isAlone : Bool := false

def declarationEnd? (field : Option (String × String)) (rest : List Char) : Option Bool :=
  match field with
  | none => some false
  | some (name, value) =>
    if name == "standalone" && (value == "yes" || value == "no") && rest.all isSpace then
      some (value == "yes")
    else none

def declared? (inside : List Char) : Option Declaration := do
  let (version, rest) ← declarationField? inside
  let (versionName, _) ← version
  guard (versionName == "version")
  let (second, rest) ← declarationField? rest
  match second with
  | some ("encoding", value) =>
    guard (value.toList.head?.any Char.isAlpha)
    let (third, rest) ← declarationField? rest
    some { encoding := some value, isAlone := ← declarationEnd? third rest }
  | other => some { isAlone := ← declarationEnd? other rest }

def cutInstruction? : List Char → Option (List Char × List Char)
  | '?' :: '>' :: rest => some ([], rest)
  | c :: rest => (cutInstruction? rest).map fun cut => (c :: cut.1, cut.2)
  | [] => none

/-- Splits a document into what its declaration says and the text after the declaration. A document
without a declaration says nothing. -/
def declaration? (text : List Char) : Option (Declaration × List Char) :=
  match text with
  | '<' :: '?' :: 'x' :: 'm' :: 'l' :: c :: rest =>
    if isSpace c || c == '?' then do
      let (inside, after) ← cutInstruction? (c :: rest)
      some (← declared? inside, after)
    else some ({}, text)
  | _ => some ({}, text)

/-! ## Decoding -/

def orMalformed {α : Type} : Option α → Except DocumentError α
  | some found => .ok found
  | none => .error .malformed

def wideUnits? (littleEndian : Bool) : List UInt8 → Option (List Nat)
  | [] => some []
  | [_] => none
  | a :: b :: rest => do
    let units ← wideUnits? littleEndian rest
    some ((if littleEndian then b.toNat * 256 + a.toNat else a.toNat * 256 + b.toNat) :: units)

/-- Joins surrogate pairs; a surrogate without its partner is malformed. -/
def ofWideUnits? : List Nat → Option (List Char)
  | [] => some []
  | high :: rest =>
    if 0xD800 ≤ high && high < 0xDC00 then
      match rest with
      | low :: more =>
        if 0xDC00 ≤ low && low < 0xE000 then
          (ofWideUnits? more).map
            (Char.ofNat (0x10000 + (high - 0xD800) * 0x400 + (low - 0xDC00)) :: ·)
        else none
      | [] => none
    else if 0xDC00 ≤ high && high < 0xE000 then none
    else (ofWideUnits? rest).map (Char.ofNat high :: ·)

def wideStart (littleEndian : Bool) : List UInt8 → List Char
  | a :: b :: rest =>
    match wideUnits? littleEndian [a, b] with
    | some [unit] => Char.ofNat unit :: wideStart littleEndian rest
    | _ => []
  | _ => []

def decodeWide (littleEndian : Bool) (bytes : List UInt8) : Except DocumentError Decoded := do
  let (said, _) ← orMalformed (declaration? (wideStart littleEndian bytes))
  match said.encoding.map DeclaredEncoding.ofName with
  | none => pure ()
  | some (.wide none) => pure ()
  | some (.wide (some little)) => if little ≠ littleEndian then throw .malformed
  | some (.refused error) => throw error
  | some _ => throw .malformed
  let text ← orMalformed ((wideUnits? littleEndian bytes).bind ofWideUnits?)
  let (_, after) ← orMalformed (declaration? text)
  return { text := after, alphabet := .widened, isAlone := said.isAlone, size := bytes.length }

def ofUtf8? (bytes : List UInt8) : Option (List Char) :=
  (String.fromUTF8? ⟨bytes.toArray⟩).map String.toList

def DeclaredEncoding.decode (bytes : List UInt8) :
    DeclaredEncoding → Except DocumentError (List Char × Alphabet)
  | utf8 => (orMalformed (ofUtf8? bytes)).map (·, .strict)
  | latin1 => (orMalformed (CodePage.latin1.decode? bytes)).map (·, .widened)
  | ascii => (orMalformed (CodePage.ascii.decode? bytes)).map (·, .strict)
  | page found => (orMalformed (found.decode? bytes)).map (·, .strict)
  | wide _ => .error .malformed
  | refused error => .error error

def decodeBytes (bytes : List UInt8) : Except DocumentError Decoded := do
  let (said, _) ← orMalformed (declaration? (bytes.map fun byte => Char.ofNat byte.toNat))
  let encoding := (said.encoding.map DeclaredEncoding.ofName).getD .utf8
  let (decoded, alphabet) ← encoding.decode bytes
  let (_, after) ← orMalformed (declaration? decoded)
  return { text := after, alphabet, isAlone := said.isAlone, size := bytes.length }

/-- Decodes a document. Every character has to be one that documents may hold. -/
def decode (bytes : ByteArray) : Except DocumentError Decoded := do
  let found ← match bytes.toList with
    | 0xFF :: 0xFE :: rest => decodeWide true rest
    | 0xFE :: 0xFF :: rest => decodeWide false rest
    | 0xEF :: 0xBB :: 0xBF :: rest => decodeBytes rest
    | first :: second :: rest =>
      if first == 0 || second == 0 then decodeWide (first != 0) (first :: second :: rest)
      else decodeBytes (first :: second :: rest)
    | short => decodeBytes short
  if found.text.all isDocumentChar then return found else throw .malformed

end FeatLoom.Xml
