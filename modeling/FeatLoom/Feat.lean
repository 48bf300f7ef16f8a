import FeatLoom.LocalizedString
import FeatLoom.Resource
import FeatLoom.Selector.Reader

/-!
# Feats and their descriptions

A feat grants passives under requirements and asks for choices. Its description is kept apart from
it, because it may come from another module.
-/

namespace FeatLoom

structure Feat where
  id : Guid
  name : String
  repeatable : Bool := false
  passives : List String := []
  requirements : Option String := none
  selectors : List Selector := []
  deriving DecidableEq, Inhabited

namespace Feat

/-- A feat can be woven when all its choices are choices of abilities. -/
def isSupported (feat : Feat) : Bool := feat.selectors.all Selector.isAbility

/-- Reads a feat from its node. An empty requirement is none. -/
def ofNode (node : Resource.Node) : Except ReadError Feat := do
  let id ← node.requireGuid "UUID"
  let name ← node.require "Name"
  return {
    id, name
    repeatable := node.flag "CanBeTakenMultipleTimes" false
    passives := ((node.text? "PassivesAdded").map (Text.itemsOf ';')).getD []
    requirements := (node.text? "Requirements").filter (· ≠ "")
    selectors := Selector.readChain (node.text? "Selectors") }

end Feat

structure FeatDescription where
  feat : Guid
  displayName : LocalizedString
  description : LocalizedString
  deriving DecidableEq, Inhabited

namespace FeatDescription

def readReference (text : String) : Except ReadError LocalizedString :=
  match LocalizedString.read? text with
  | some reference => .ok reference
  | none => .error (.notInteger text)

def ofNode (node : Resource.Node) : Except ReadError FeatDescription := do
  let feat ← node.requireGuid "FeatId"
  let displayName ← (node.require "DisplayName").bind readReference
  let description ← (node.require "Description").bind readReference
  return { feat, displayName, description }

end FeatDescription

end FeatLoom
