import FeatLoom.Text.Split
import FeatLoom.Xml.Reference

/-!
# Document types

What a document declares: the texts that references to entities stand for, and rules for attributes.
A document may refer to declarations outside of it, which are not read. What is missing then is not
held against the document, unless it says that it stands alone. As an entity may refer to others, a
short document can stand for a very long one; how long is limited.
-/

namespace FeatLoom.Xml

inductive Entity where
  | inner (text : List Char)
  | outer

structure AttributeRule where
  element : RawName
  name : RawName
  /-- Whether values are made of words, so that the spaces between them do not count. -/
  isWords : Bool
  default : Option String

structure DocumentType where
  alphabet : Alphabet := .strict
  isAlone : Bool := false
  entities : List (String × Entity) := []
  rules : List AttributeRule := []
  isOpen : Bool := false
  /-- Whether further declarations are passed over, as some before them may be missing. -/
  isCut : Bool := false
  allowance : Nat := 0

namespace DocumentType

def entity? (type : DocumentType) (name : String) : Option Entity := type.entities.lookup name

def mayLack (type : DocumentType) : Bool := type.isOpen && !type.isAlone

/-- Adds the declaration of an entity. The first one of a name counts, and standard ones stay. -/
def withEntity (type : DocumentType) (name : String) (entity : Entity) : DocumentType :=
  if (standardEntity? name).isSome || (type.entity? name).isSome then type
  else { type with entities := (name, entity) :: type.entities }

def rule? (type : DocumentType) (element name : RawName) : Option AttributeRule :=
  type.rules.find? fun rule => rule.element = element && rule.name = name

/-- Adds a rule. The first one for an attribute counts. -/
def withRule (type : DocumentType) (rule : AttributeRule) : DocumentType :=
  if (type.rule? rule.element rule.name).isSome then type
  else { type with rules := type.rules ++ [rule] }

/-! ## Growth by entities -/

/-- How many bytes entities may add to a document of some size. Small documents may grow to eight
mebibytes, and others to a hundred times their size. -/
def allowanceFor (size : Nat) : Nat := max (0x7FFFFF - size) (99 * size)

def byteSize (text : List Char) : Nat := text.foldl (fun size c => size + c.utf8Size) 0

def referred (text : List Char) : List String :=
  ((Text.splitOn ['&'] text).drop 1).map fun part => String.ofList (part.takeWhile (· ≠ ';'))

/-- What is left of an allowance after the entities that a text refers to. Beyond some depth nothing
is taken from it: what lies that deep lies inside of itself, and is refused when it is read. -/
def spend? (type : DocumentType) : Nat → List Char → Nat → Option Nat
  | 0, _, allowance => some allowance
  | depth + 1, text, allowance =>
    (referred text).foldlM (fun left name =>
      match standardEntity? name, type.entity? name with
      | none, some (.inner inside) =>
        let size := byteSize inside
        if size ≤ left then type.spend? depth inside (left - size) else none
      | _, _ => some left) allowance

def affords (type : DocumentType) (text : List Char) : Bool :=
  type.entities.isEmpty ||
    (type.spend? (type.entities.length + 1) text type.allowance).isSome

/-! ## Values of attributes -/

/-- The text of an attribute value without its references. White space reads as a space, but
characters referred to by number stay. The depth of references is bounded, as an entity must not
refer to itself. -/
def expanded? (type : DocumentType) : Nat → Alphabet → List Char → Option (List Char)
  | 0, _, _ => none
  | fuel + 1, alphabet, text => do
    let pieces ← pieces? alphabet text
    let parts ← pieces.mapM fun piece =>
      match piece with
      | .literal c => if c == '<' then none else some [if isSpace c then ' ' else c]
      | .numbered c => some [c]
      | .entity name =>
        match standardEntity? name, type.entity? name with
        | some c, _ => some [c]
        | none, some (.inner inside) => type.expanded? fuel .strict inside
        | none, some .outer => none
        | none, none => if type.mayLack then some [] else none
    return parts.flatten

def joinWords (text : List Char) : List Char :=
  [' '].intercalate ((Text.splitOn [' '] text).filter (· ≠ []))

def value? (type : DocumentType) (isWords : Bool) (text : List Char) : Option String :=
  if type.affords text then
    (type.expanded? (type.entities.length + 1) type.alphabet text).map fun value =>
      String.ofList (if isWords then joinWords value else value)
  else none

/-- The values of the attributes of an element, with those that it does not mention. -/
def attributes? (type : DocumentType) (element : RawName)
    (written : List (RawName × List Char)) : Option (List (RawName × String)) := do
  let values ← written.mapM fun entry =>
    let isWords := ((type.rule? element entry.1).map AttributeRule.isWords).getD false
    (type.value? isWords entry.2).map (entry.1, ·)
  let missing := type.rules.filter fun rule =>
    rule.element = element && !written.any fun entry => entry.1 = rule.name
  return values ++ missing.filterMap fun rule => rule.default.map (rule.name, ·)

end DocumentType

end FeatLoom.Xml
