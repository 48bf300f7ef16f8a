import FeatLoom.Yaml.Denoted

/-!
# Nodes

A node is what a document says at one place: a scalar, a list or a mapping, with a tag that says
what it denotes. An alias may also stand for a list or mapping around it. A mapping may ask for the
entries of others: they stand before its own, so that its own entries count, and so do those of
earlier mappings over those of later ones.

A node is kept with what it denotes, so that a node with many aliases is looked at once.
-/

namespace FeatLoom.Yaml

inductive Node where
  | scalar (tag text : String)
  | list (tag : String) (items : List Node) (denoted : Denoted)
  /-- A mapping as it is written, and in full with the entries that it asks for, if they can be
  had. -/
  | map (tag : String) (entries : List (Node × Node)) (full : Option (List (Node × Node)))
    (denoted : Denoted)
  | outer (isMap : Bool)

namespace Node

instance : Inhabited Node := ⟨scalar "" ""⟩

def tag : Node → String
  | scalar tag _ => tag
  | list tag .. => tag
  | map tag .. => tag
  | outer isMap => if isMap then Tag.map else Tag.list

def empty : Node := scalar Tag.null ""

def denoted : Node → Denoted
  | scalar tag text =>
    if [Tag.list, Tag.pairs, Tag.orderedMap, Tag.map, Tag.set].contains tag then .unfit tag
    else .scalar tag text
  | list _ _ denoted => denoted
  | map _ _ _ denoted => denoted
  | outer isMap => ⟨.outer isMap, none⟩

/-! ## Lists -/

def pairDenoted : Node → Denoted
  | map _ [(key, value)] _ _ => .pair key.denoted value.denoted
  | _ => .faulty .malformed

def ofItems (tag : String) (items : List Node) : Node :=
  .list tag items
    (if tag = Tag.list then .list (items.map denoted)
    else if tag = Tag.pairs || tag = Tag.orderedMap then .list (items.map pairDenoted)
    else .unfit tag)

/-! ## Mappings -/

mutual

/-- The text that a node stands for as a scalar. A mapping stands for the value under its own key
for that. -/
def text? : Node → Option String
  | scalar _ text => some text
  | map _ entries _ _ => textAmong? entries
  | list .. => none
  | outer _ => none

def textAmong? : List (Node × Node) → Option String
  | [] => none
  | (key, value) :: rest => if key.tag = Tag.value then value.text? else textAmong? rest

end

/-- The entries that a node gives to a mapping. One that is still open has none to give away. -/
def given? : Node → Option (List (Node × Node))
  | map _ _ full _ => full
  | outer true => some []
  | _ => none

def asked? : Node → Option (List (Node × Node))
  | list _ items _ => (items.mapM given?).map fun groups => groups.reverse.flatten
  | outer false => some []
  | node => node.given?

/-- A key. The one for the value that stands for a mapping is a text among the others. -/
def asKey (node : Node) : Node :=
  if node.tag = Tag.value then
    match node with
    | scalar _ text => .scalar Tag.text text
    | list _ items _ => .list Tag.text items (.unfit Tag.text)
    | map _ entries full _ =>
      .map Tag.text entries full (((textAmong? entries).map (.scalar Tag.text)).getD
        (.unfit Tag.text))
    | outer isMap => .outer isMap
  else node

def withAsked? (entries : List (Node × Node)) : Option (List (Node × Node)) := do
  let (asking, own) := entries.partition fun entry => entry.1.tag = Tag.merge
  let groups ← asking.mapM fun entry => entry.2.asked?
  return groups.flatten ++ own.map fun entry => (entry.1.asKey, entry.2)

def mapDenoted (tag : String) (entries : List (Node × Node))
    (full : Option (List (Node × Node))) : Denoted :=
  let made : Option Denoted :=
    full.map fun entries => .map (entries.map fun entry => (entry.1.denoted, entry.2.denoted))
  if tag = Tag.map then made.getD (.unfit tag)
  else if tag = Tag.set then (made.map Denoted.keys).getD (.unfit tag)
  else if tag = Tag.list || tag = Tag.pairs || tag = Tag.orderedMap then .unfit tag
  else ((textAmong? entries).map (.scalar tag)).getD (.unfit tag)

def ofEntries (tag : String) (entries : List (Node × Node)) : Node :=
  let full := withAsked? entries
  .map tag entries full (mapDenoted tag entries full)

end Node

end FeatLoom.Yaml
