import FeatLoom.Guid
import FeatLoom.OrderedMap
import FeatLoom.Text.Lowercase

/-!
# Resources

A resource file holds regions, and each region is a tree of nodes. A node has a name, typed
attributes and children in document order. Reading an attribute either allows for its absence or
demands it; what can go wrong is a `ReadError`.
-/

namespace FeatLoom

inductive ReadError where
  | malformed
  | unknownEncoding
  | wideEncoding
  | foreignEncoding
  | partialEncoding
  | missingAttribute (name node : String)
  | notGuid (text : String)
  | notInteger (text : String)
  | missingRegion (id : String)
  | missingChild (id : String)
  | tooDeep
  deriving DecidableEq

namespace ReadError

def message : ReadError → String
  | malformed => "The document is not well-formed"
  | unknownEncoding => "The encoding of the document is unknown"
  | wideEncoding => "The encoding of the document has characters of several bytes"
  | foreignEncoding => "The encoding of the document is for other texts"
  | partialEncoding => "The encoding of the document leaves bytes without meaning"
  | missingAttribute name node =>
    "Missing the attribute " ++ name ++ " for the node " ++ node
  | notGuid text => "Not an identifier: " ++ text
  | notInteger text => "Not an integer: " ++ text
  | missingRegion id => "Missing the region " ++ id
  | missingChild id => "Missing a child " ++ id
  | tooDeep => "The document nests its nodes too deep"

end ReadError

namespace Resource

/-- An attribute of a node. Localized texts have a handle and a version in place of a value. -/
structure Attribute where
  valueType : String
  value : Option String := none
  handle : Option String := none
  version : Option String := none
  deriving DecidableEq, Inhabited

namespace Attribute

def referenceText (handle : String) : Option String → String
  | none => handle
  | some version => handle ++ ";" ++ version

def text (self : Attribute) : String :=
  match self.value, self.handle with
  | some value, _ => value
  | none, some handle => referenceText handle self.version
  | none, none => ""

end Attribute

structure Node where
  name : String
  attributes : OrderedMap String Attribute
  children : List Node

namespace Node

def childCount (node : Node) : Nat := node.children.length

def childrenNamed (node : Node) (name : String) : List Node :=
  node.children.filter fun child => child.name == name

def childNames (node : Node) : List String :=
  (node.children.map Node.name).eraseDups

def childGroups (node : Node) : List (String × List Node) :=
  node.childNames.map fun name => (name, node.childrenNamed name)

def describe (node : Node) : String :=
  "LsxNode(" ++ node.name ++ ", " ++ toString node.attributes.size ++ " attrs, " ++
    toString node.childCount ++ " children)"

mutual

/-- How many nodes of a tree stand inside of one another at most. -/
def height : Node → Nat
  | ⟨_, _, children⟩ => heightAmong children + 1

def heightAmong : List Node → Nat
  | [] => 0
  | node :: rest => max (height node) (heightAmong rest)

end

/-! ## Attributes -/

def text? (node : Node) (name : String) : Option String :=
  (node.attributes.get? name).map Attribute.text

def require (node : Node) (name : String) : Except ReadError String :=
  match node.text? name with
  | some text => .ok text
  | none => .error (.missingAttribute name node.name)

def affirmatives : List String := ["true", "1", "yes"]

def isAffirmative (text : String) : Bool :=
  affirmatives.contains (String.ofList (Text.lowerChars (Text.trim text.toList)))

/-- A yes or no; `absent` stands for a missing attribute. -/
def flag (node : Node) (name : String) (absent : Bool) : Bool :=
  ((node.text? name).map isAffirmative).getD absent

def toGuid (text : String) : Except ReadError Guid :=
  match Guid.read? text with
  | some id => .ok id
  | none => .error (.notGuid text)

def toInteger (text : String) : Except ReadError Int :=
  match Text.toInt? text with
  | some n => .ok n
  | none => .error (.notInteger text)

def guid? (node : Node) (name : String) : Except ReadError (Option Guid) :=
  match node.text? name with
  | none => .ok none
  | some text => (toGuid text).map some

def requireGuid (node : Node) (name : String) : Except ReadError Guid :=
  (node.require name).bind toGuid

def integer? (node : Node) (name : String) : Except ReadError (Option Int) :=
  match node.text? name with
  | none => .ok none
  | some text => (toInteger text).map some

def requireInteger (node : Node) (name : String) : Except ReadError Int :=
  (node.require name).bind toInteger

end Node

end Resource

structure Resource where
  regions : OrderedMap String Resource.Node

namespace Resource

def region? (resource : Resource) (id : String) : Option Node := resource.regions.get? id

end Resource

end FeatLoom
