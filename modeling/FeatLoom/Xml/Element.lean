/-!
# Element trees

What is left of a document once text, comments and instructions are set aside: elements with their
attributes and child elements in document order.
-/

namespace FeatLoom.Xml

/-- A name and the namespace it belongs to; names outside of any namespace have the empty one. -/
structure Name where
  space : String := ""
  base : String
  deriving DecidableEq, Inhabited

structure Element where
  name : Name
  attributes : List (Name × String)
  children : List Element
  deriving Inhabited

def valueIn? (attributes : List (Name × String)) (base : String) : Option String :=
  (attributes.find? fun entry => entry.1 == { base }).map Prod.snd

namespace Element

def isNamed (e : Element) (base : String) : Bool := e.name == { base }

def attribute? (e : Element) (base : String) : Option String := valueIn? e.attributes base

def id? (e : Element) : Option String := e.attribute? "id"

end Element

end FeatLoom.Xml
