import FeatLoom.Xml.Aside
import FeatLoom.Xml.DocumentType
import FeatLoom.Xml.DocumentType.Mark

/-!
# Reading document types

Declarations of entities and attributes are taken in; those of elements and notations only have to
be written properly. References to declarations outside of the document are not followed. After the
first of them further declarations are passed over, unless the document stands alone.
-/

namespace FeatLoom.Xml

namespace DocumentType

def plain (base : String) : Mark := .name ⟨none, base⟩

def isPlain : Mark → Bool
  | .name ⟨none, _⟩ => true
  | _ => false

/-! ## What lies outside -/

def isPublicIdChar (c : Char) : Bool :=
  c.isAlphanum || c == ' ' || c == '\r' || c == '\n' || "-'()+,./:=?;!*@$_%#".toList.contains c

def afterPlace? : List Mark → Option (List Mark)
  | .name ⟨none, "SYSTEM"⟩ :: .quoted _ :: rest => some rest
  | .name ⟨none, "PUBLIC"⟩ :: .quoted id :: .quoted _ :: rest =>
    if id.all isPublicIdChar then some rest else none
  | _ => none

/-! ## Entities -/

/-- The text of an entity. References by number are replaced, those to entities stay, and those to
declarations may not occur. -/
def entityText? (alphabet : Alphabet) (text : List Char) : Option (List Char) := do
  let pieces ← pieces? alphabet text
  let parts ← pieces.mapM fun piece =>
    match piece with
    | .literal c => if c == '%' then none else some [c]
    | .numbered c => some [c]
    | .entity name => some ('&' :: name.toList ++ [';'])
  return parts.flatten

def declareEntity? (type : DocumentType) (name : String) : List Mark → Option DocumentType
  | [.quoted text] =>
    if type.isCut then some type
    else (entityText? type.alphabet text).map fun inside => type.withEntity name (.inner inside)
  | marks => do
    match ← afterPlace? marks with
    | [] => pure ()
    | [.name ⟨none, "NDATA"⟩, format] => guard (isPlain format)
    | _ => none
    return if type.isCut then type else type.withEntity name .outer

def checkParameter? (type : DocumentType) : List Mark → Option Unit
  | [.quoted text] =>
    if type.isCut then some () else (entityText? type.alphabet text).map fun _ => ()
  | marks => do guard ((← afterPlace? marks).isEmpty)

def entityDeclaration? (type : DocumentType) : List Mark → Option DocumentType
  | .percent :: .name ⟨none, _⟩ :: rest => (type.checkParameter? rest).map fun _ => type
  | .name ⟨none, name⟩ :: rest => type.declareEntity? name rest
  | _ => none

/-! ## Attributes -/

def afterChoices? (isChoice : Mark → Bool) : List Mark → Option (List Mark)
  | choice :: .bar :: rest => if isChoice choice then afterChoices? isChoice rest else none
  | choice :: .closing none :: rest => if isChoice choice then some rest else none
  | _ => none

def isAnyWord : Mark → Bool
  | .name _ => true
  | .word => true
  | _ => false

def wordTypes : List String :=
  ["ID", "IDREF", "IDREFS", "ENTITY", "ENTITIES", "NMTOKEN", "NMTOKENS"]

def attributeType? : List Mark → Option (Bool × List Mark)
  | .opening :: rest => (afterChoices? isAnyWord rest).map (true, ·)
  | .name ⟨none, "NOTATION"⟩ :: .opening :: rest => (afterChoices? isPlain rest).map (true, ·)
  | .name ⟨none, "CDATA"⟩ :: rest => some (false, rest)
  | .name ⟨none, name⟩ :: rest => if wordTypes.contains name then some (true, rest) else none
  | _ => none

def attributeDefault? : List Mark → Option (Option (List Char) × List Mark)
  | .reserved "IMPLIED" :: rest => some (none, rest)
  | .reserved "REQUIRED" :: rest => some (none, rest)
  | .reserved "FIXED" :: .quoted text :: rest => some (some text, rest)
  | .quoted text :: rest => some (some text, rest)
  | _ => none

def declareAttributes? (element : RawName) : Nat → DocumentType → List Mark → Option DocumentType
  | _, type, [] => some type
  | fuel + 1, type, .name name :: marks => do
    let (isWords, rest) ← attributeType? marks
    let (default, left) ← attributeDefault? rest
    if type.isCut then declareAttributes? element fuel type left
    else
      let default ← default.mapM (type.value? isWords)
      declareAttributes? element fuel (type.withRule { element, name, isWords, default }) left
  | _, _, _ => none

def attributeDeclaration? (type : DocumentType) : List Mark → Option DocumentType
  | .name element :: rest => declareAttributes? element rest.length type rest
  | _ => none

/-! ## Elements and notations -/

/-- Whether marks say that text and elements of some names may stand in an element, after the sign
for text. -/
def isMixed : List Mark → Bool
  | [.closing none] => true
  | [.closing (some '*')] => true
  | .bar :: .name _ :: rest => isMixedNames rest
  | _ => false
where
  isMixedNames : List Mark → Bool
    | [.closing (some '*')] => true
    | .bar :: .name _ :: rest => isMixedNames rest
    | _ => false

/-- Whether marks are the rest of the content of an element. For each group around them the sign
between its items is given, once it is known, and `isDue` says whether an item has to be next. -/
def isContent : List (Option Mark) → Bool → List Mark → Bool
  | groups, true, .opening :: rest => isContent (none :: groups) true rest
  | groups, true, .name _ :: rest => isContent groups false rest
  | groups, true, .repeated :: rest => isContent groups false rest
  | [_], false, .closing _ :: rest => rest.isEmpty
  | _ :: groups, false, .closing _ :: rest => isContent groups false rest
  | between :: groups, false, mark :: rest =>
    (mark == .comma || mark == .bar) && between.all (· == mark) &&
      isContent (some mark :: groups) true rest
  | _, _, _ => false

def isElementDeclaration : List Mark → Bool
  | [.name _, mark] => mark == plain "EMPTY" || mark == plain "ANY"
  | .name _ :: .opening :: .reserved "PCDATA" :: rest => isMixed rest
  | .name _ :: .opening :: rest => isContent [none] true rest
  | _ => false

def isNotationDeclaration : List Mark → Bool
  | [.name ⟨none, _⟩, .name ⟨none, "PUBLIC"⟩, .quoted id] => id.all isPublicIdChar
  | .name ⟨none, _⟩ :: rest => (afterPlace? rest).any List.isEmpty
  | _ => false

/-! ## Documents -/

def declare? (type : DocumentType) (keyword : List Char) (marks : List Mark) :
    Option DocumentType :=
  match String.ofList keyword with
  | "ENTITY" => type.entityDeclaration? marks
  | "ATTLIST" => type.attributeDeclaration? marks
  | "ELEMENT" => if isElementDeclaration marks then some type else none
  | "NOTATION" => if isNotationDeclaration marks then some type else none
  | _ => none

def declaration? (type : DocumentType) (text : List Char) : Option (DocumentType × List Char) := do
  let rest := text.dropWhile Char.isAlpha
  guard (rest.head?.any isSpace)
  let (marks, sign, left) ← Mark.marks? type.alphabet text.length rest
  guard (sign == '>')
  return (← type.declare? (text.takeWhile Char.isAlpha) marks, left)

def afterReference (type : DocumentType) : DocumentType :=
  { type with isOpen := true, isCut := type.isCut || !type.isAlone }

def declarations? : Nat → DocumentType → List Char → Option (DocumentType × List Char)
  | 0, _, _ => none
  | fuel + 1, type, text =>
    match text.dropWhile isSpace with
    | '<' :: '!' :: '-' :: '-' :: rest => do declarations? fuel type (← afterComment? rest)
    | '<' :: '?' :: rest => do declarations? fuel type (← afterInstruction? type.alphabet rest)
    | '<' :: '!' :: rest => do
      let (grown, left) ← type.declaration? rest
      declarations? fuel grown left
    | '%' :: rest => do
      let (_, after) ← simpleName? type.alphabet rest
      match after with
      | ';' :: left => declarations? fuel type.afterReference left
      | _ => none
    | ']' :: rest => some (type, rest)
    | _ => none

def read? (type : DocumentType) (text : List Char) : Option (DocumentType × List Char) := do
  guard (text.head?.any isSpace)
  let (marks, sign, rest) ← Mark.marks? type.alphabet (text.length + 1) text
  let type ← match marks with
    | [.name _] => some type
    | .name _ :: place => do
      guard ((← afterPlace? place).isEmpty)
      some { type with isOpen := true }
    | _ => none
  if sign == '>' then some (type, rest)
  else
    let (full, after) ← declarations? (rest.length + 1) type rest
    match after.dropWhile isSpace with
    | '>' :: left => some (full, left)
    | _ => none

end DocumentType

end FeatLoom.Xml
