import FeatLoom.OrderedMap
import FeatLoom.Text.Quoted

/-!
# Stat entries

A stat entry has a name, a type, an optional parent and data. The data gives each key a list of
values. A key is there only while it has a value, and no value is empty, because adding nothing
changes nothing. `StatEntry.toText` is the written form.
-/

namespace FeatLoom

structure StatEntry where
  name : String
  entryType : String := ""
  parent : Option String := none
  data : OrderedMap String (List String) := OrderedMap.empty
  deriving DecidableEq

namespace StatEntry

instance : Inhabited StatEntry := ⟨⟨"", "", none, OrderedMap.empty⟩⟩

/-- Appends values to a key; empty values do not count. -/
def extend (entry : StatEntry) (key : String) (values : List String) : StatEntry :=
  match values.filter (· ≠ "") with
  | [] => entry
  | added => { entry with data := entry.data.alter key fun present => present.getD [] ++ added }

def add (entry : StatEntry) (key value : String) : StatEntry := entry.extend key [value]

def get? (entry : StatEntry) (key : String) : Option (List String) := entry.data.get? key

def valuesOf (entry : StatEntry) (key : String) : List String := (entry.get? key).getD []

def separator (key : String) : String :=
  if key = "RequirementConditions" then " and " else ";"

def quote (text : String) : String := "\"" ++ text ++ "\""

def parentLines : Option String → List String
  | none => []
  | some parent => if parent = "" then [] else ["using " ++ quote parent]

def dataLine (entry : String × List String) : String :=
  "data " ++ quote entry.1 ++ " " ++ quote ((separator entry.1).intercalate entry.2)

def textLines (entry : StatEntry) : List String :=
  ["new entry " ++ quote entry.name, "type " ++ quote entry.entryType] ++
    parentLines entry.parent ++ entry.data.entries.map dataLine

def toText (entry : StatEntry) : String := String.join (entry.textLines.map (· ++ "\n"))

def fileText (entries : List StatEntry) : String :=
  String.join (entries.map fun entry => entry.toText ++ "\n")

def describe (entry : StatEntry) : String :=
  "StatEntry(" ++ Text.quoted entry.name ++ ", " ++ Text.quoted entry.entryType ++ ", " ++
    toString entry.data.size ++ " keys)"

end StatEntry

end FeatLoom
