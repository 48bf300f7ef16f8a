import FeatLoom.Nesting
import FeatLoom.Resource
import FeatLoom.Xml.Reader

/-!
# Resources from documents

A `region` element anywhere in a document makes a region if it has an identifier; of several with
one identifier the last counts. Its root is its first `node` element. The attributes of a node are
its `attribute` elements, and its children are the `node` elements inside its first `children`
element. Elements of other names, and all names in a namespace, carry nothing.
-/

namespace FeatLoom.Resource

open Xml (Element)

def properId? (element : Element) : Option String := element.id?.filter (· ≠ "")

def attributeOf (element : Element) : Attribute where
  valueType := (element.attribute? "type").getD ""
  value := element.attribute? "value"
  handle := element.attribute? "handle"
  version := element.attribute? "version"

/-- The attributes among the child elements of a node; the last one of an identifier counts. -/
def attributesOf (children : List Element) : OrderedMap String Attribute :=
  OrderedMap.ofList <| (children.filter fun child => child.isNamed "attribute").filterMap
    fun child => (properId? child).map fun id => (id, attributeOf child)

mutual

def nodeOf : Element → Node
  | ⟨_, entries, children⟩ =>
    { name := (Xml.valueIn? entries "id").getD ""
      attributes := attributesOf children
      children := childNodes children }

def childNodes : List Element → List Node
  | [] => []
  | ⟨name, _, inner⟩ :: rest =>
    if name = { base := "children" } then nodesAmong inner else childNodes rest

def nodesAmong : List Element → List Node
  | [] => []
  | child :: rest =>
    if child.isNamed "node" then nodeOf child :: nodesAmong rest else nodesAmong rest

end

/-- The root of a region; a region without nodes has an empty root named after it. -/
def regionRoot (id : String) (region : Element) : Node :=
  match region.children.find? fun child => child.isNamed "node" with
  | some root => nodeOf root
  | none => ⟨id, OrderedMap.empty, []⟩

mutual

def elementsWithin : Element → List Element
  | ⟨name, entries, children⟩ => ⟨name, entries, children⟩ :: elementsAmong children

def elementsAmong : List Element → List Element
  | [] => []
  | element :: rest => elementsWithin element ++ elementsAmong rest

end

/-- The regions of a document, with those that a later one of their identifier replaces. -/
def regionsWithin (root : Element) : List (String × Node) :=
  ((elementsWithin root).filter fun element => element.isNamed "region").filterMap
    fun region => (properId? region).map fun id => (id, regionRoot id region)

def ofElement (root : Element) : Resource where
  regions := OrderedMap.ofList (regionsWithin root)

/-- How many nodes of a document are converted inside of one another at most. -/
def depth (root : Element) : Nat := Node.heightAmong ((regionsWithin root).map Prod.snd)

def read [Nesting] (bytes : ByteArray) : Except ReadError Resource :=
  match Xml.read bytes with
  | .ok root => if depth root ≤ Nesting.nodes then .ok (ofElement root) else .error .tooDeep
  | .error .malformed => .error .malformed
  | .error .unknownEncoding => .error .unknownEncoding
  | .error .wideEncoding => .error .wideEncoding
  | .error .foreignEncoding => .error .foreignEncoding
  | .error .partialEncoding => .error .partialEncoding

end FeatLoom.Resource
