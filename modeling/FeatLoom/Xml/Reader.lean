import FeatLoom.Xml.Element
import FeatLoom.Xml.Encoding
import FeatLoom.Xml.Token

/-!
# Reading XML documents

A document is one element with comments and instructions around it, and at most one document type
before it. Tags have to match, names resolve against the namespaces in scope, and no element has
two attributes of one name. Anything else is no document.
-/

namespace FeatLoom.Xml

/-! ## Namespaces -/

/-- The namespaces in scope: the last declaration of a prefix stands first. The empty prefix is
the default namespace. -/
abbrev Scope := List (String × String)

def standardSpace (path : String) : String := "http:" ++ "//www.w3.org/" ++ path

def xmlSpace : String := standardSpace "XML/1998/namespace"

/-- The namespace of declarations; no prefix may be bound to it. -/
def declarationSpace : String := standardSpace "2000/xmlns/"

def Scope.initial : Scope := [("xml", xmlSpace)]

def declaredPrefix? (name : RawName) : Option String :=
  match name.prefixed with
  | none => if name.base == "xmlns" then some "" else none
  | some space => if space == "xmlns" then some name.base else none

def isBindable (label space : String) : Bool :=
  if label == "xml" then space == xmlSpace
  else label != "xmlns" && space != xmlSpace && space != declarationSpace &&
    (label == "" || space != "") && !space.toList.contains '\x7d'

def Scope.declare? (scope : Scope) : List (RawName × String) → Option Scope
  | [] => some scope
  | (name, space) :: rest =>
    match declaredPrefix? name with
    | none => scope.declare? rest
    | some label =>
      if isBindable label space then (scope.declare? rest).map ((label, space) :: ·) else none

def Scope.lookup? (scope : Scope) (label : String) : Option String :=
  (scope.find? fun entry => entry.1 == label).map Prod.snd

def Scope.elementName? (scope : Scope) (name : RawName) : Option Name :=
  match name.prefixed with
  | none => some ⟨(scope.lookup? "").getD "", name.base⟩
  | some label => (scope.lookup? label).map (⟨·, name.base⟩)

def Scope.attributeName? (scope : Scope) (name : RawName) : Option Name :=
  match name.prefixed with
  | none => some ⟨"", name.base⟩
  | some label => (scope.lookup? label).map (⟨·, name.base⟩)

/-! ## Elements -/

/-- An element whose end tag has not been read, with its children in reverse. -/
structure OpenElement where
  raw : RawName
  name : Name
  scope : Scope
  attributes : List (Name × String)
  children : List Element

/-- A document read in part: the elements that are open, innermost first, and the root once it
has been closed. -/
structure Partial where
  frames : List OpenElement := []
  root : Option Element := none
  typed : Bool := false

namespace Partial

def place (doc : Partial) (element : Element) : Partial :=
  match doc.frames with
  | [] => { doc with root := some element }
  | frame :: outer =>
    { doc with frames := { frame with children := element :: frame.children } :: outer }

def leave? (doc : Partial) (raw : RawName) : Option Partial :=
  match doc.frames with
  | [] => none
  | frame :: outer =>
    if frame.raw = raw then
      some ({ doc with frames := outer }.place
        { name := frame.name, attributes := frame.attributes, children := frame.children.reverse })
    else none

def enter? (doc : Partial) (raw : RawName) (entries : List (RawName × String)) :
    Option Partial := do
  guard (!(doc.frames.isEmpty && doc.root.isSome))
  let outer := (doc.frames.head?.map OpenElement.scope).getD Scope.initial
  let scope ← outer.declare? entries
  let name ← scope.elementName? raw
  let attributes ← (entries.filter fun entry => (declaredPrefix? entry.1).isNone).mapM
    fun entry => (scope.attributeName? entry.1).map (·, entry.2)
  guard (decide (attributes.map Prod.fst).Nodup)
  some { doc with frames := ⟨raw, name, scope, attributes, []⟩ :: doc.frames }

def step? (doc : Partial) : Token → Option Partial
  | .start name entries closed => do
    let opened ← doc.enter? name entries
    if closed then opened.leave? name else some opened
  | .finish name => doc.leave? name
  | .data blank => if doc.frames.isEmpty && !blank then none else some doc
  | .unparsed => if doc.frames.isEmpty then none else some doc
  | .doctype =>
    if doc.frames.isEmpty && doc.root.isNone && !doc.typed then some { doc with typed := true }
    else none
  | .aside => some doc

def finish? (doc : Partial) : Option Element :=
  if doc.frames.isEmpty then doc.root else none

end Partial

def rootOf? (decoded : Decoded) : Option Element := do
  let type : DocumentType := {
    alphabet := decoded.alphabet
    isAlone := decoded.isAlone
    allowance := DocumentType.allowanceFor decoded.size }
  let tokens ← tokens? type decoded.text
  let doc ← tokens.foldlM Partial.step? {}
  doc.finish?

def read (bytes : ByteArray) : Except DocumentError Element := do
  orMalformed (rootOf? (← decode bytes))

end FeatLoom.Xml
