import FeatLoom.Feat
import FeatLoom.StatEntry
import FeatLoom.Version

/-!
# Modules

A module is a unit of game content with an identity, dependencies on other modules, feats, feat
descriptions, stat entries and candidate lists. A value of `Module` is either one snapshot, read
from one package, or the result of merging snapshots.
-/

namespace FeatLoom

inductive ListKind where
  | passive
  | ability
  | skill
  | spell
  deriving DecidableEq, Inhabited

namespace ListKind

def name : ListKind → String
  | passive => "PASSIVE"
  | ability => "ABILITY"
  | skill => "SKILL"
  | spell => "SPELL"

/-- All categories, in the order in which list files are searched for them. -/
def all : List ListKind := [passive, ability, skill, spell]

/-- The category that a kind of selector draws from; expertise draws from the skill lists. -/
def ofSelector? : SelectorKind → Option ListKind
  | .passive => some passive
  | .ability => some ability
  | .skill => some skill
  | .expertise => some skill
  | .spell => some spell
  | .unknown => none

end ListKind

def normalizeName (name : String) : String :=
  String.ofList (name.toList.map fun c => if c.isAlphanum then c else '_')

structure ModuleId where
  name : Option String := none
  id : Guid := Guid.nil
  version : Version := Version.zero
  deriving DecidableEq, Inhabited

namespace ModuleId

def properName? (m : ModuleId) : Option String := m.name.filter (· ≠ "")

def isValid (m : ModuleId) : Bool := !m.id.isNil && m.properName?.isSome

def shownName (m : ModuleId) : String := m.name.getD "None"

def ofNode (node : Resource.Node) : Except ReadError ModuleId := do
  let id ← node.requireGuid "UUID"
  let name ← node.require "Name"
  let version ← node.requireInteger "Version64"
  return { id, name := some name, version := ⟨version⟩ }

end ModuleId

abbrev CandidateLists := OrderedMap ListKind (OrderedMap Guid (List String))

structure Module extends ModuleId where
  package : Option String := none
  descriptions : OrderedMap Guid FeatDescription := OrderedMap.empty
  feats : List Feat := []
  dependencies : List ModuleId := []
  stats : OrderedMap String StatEntry := OrderedMap.empty
  lists : CandidateLists := OrderedMap.empty
  deriving DecidableEq

namespace Module

instance : Inhabited Module := ⟨{}⟩

def normalizedName (m : Module) : String := normalizeName (m.name.getD "")

/-- A module matters when it is valid and has descriptions, feats or candidate lists. -/
def isInteresting (m : Module) : Bool :=
  m.isValid && (!m.descriptions.isEmpty || !m.feats.isEmpty || !m.lists.isEmpty)

def dependencyNames (m : Module) : List String := m.dependencies.filterMap ModuleId.properName?

def feat? (m : Module) (id : Guid) : Option Feat := m.feats.find? fun feat => feat.id == id

def candidates? (m : Module) (kind : ListKind) (id : Guid) : Option (List String) :=
  (m.lists.get? kind).bind fun lists => lists.get? id

def describe (m : Module) : String :=
  "Module(" ++ m.shownName ++ " v" ++ toString m.version ++ ": " ++ toString m.feats.length ++
    " feats, " ++ toString m.descriptions.size ++ " descriptions, " ++
    toString m.dependencies.length ++ " deps)"

end Module

end FeatLoom
