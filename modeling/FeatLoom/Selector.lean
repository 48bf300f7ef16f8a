import FeatLoom.Guid

/-!
# Selectors

A feat asks the player to choose from lists. Each choice is a selector: how many entries are
picked, from which list, and under what label.
-/

namespace FeatLoom

inductive SelectorKind where
  | unknown
  | ability
  | skill
  | expertise
  | passive
  | spell
  deriving DecidableEq, Inhabited

namespace SelectorKind

def name : SelectorKind → String
  | unknown => "UNKNOWN"
  | ability => "ABILITY"
  | skill => "SKILL"
  | expertise => "EXPERTISE"
  | passive => "PASSIVE"
  | spell => "SPELL"

end SelectorKind

/-- A choice of `count` abilities from a list, none of them raised more than `max` times. -/
structure AbilityChoice where
  list : Guid
  count : Nat
  max : Nat
  label : String
  deriving DecidableEq, Inhabited

inductive Selector where
  | ability (choice : AbilityChoice)
  | skill (list : Guid) (count : Nat) (label : Option String)
  | expertise (list : Guid) (count : Nat) (flag : Option Bool)
  | passive (list : Guid) (count : Nat) (category : Option String)
  /-- A choice of spells, known by name only: no spelling of its arguments is settled. -/
  | spell
  /-- Anything else, with the text that was not understood where there is one. -/
  | unknown (text : Option String)
  deriving DecidableEq, Inhabited

namespace Selector

def kind : Selector → SelectorKind
  | ability _ => .ability
  | skill .. => .skill
  | expertise .. => .expertise
  | passive .. => .passive
  | spell => .spell
  | unknown _ => .unknown

def list? : Selector → Option Guid
  | ability choice => some choice.list
  | skill list _ _ => some list
  | expertise list _ _ => some list
  | passive list _ _ => some list
  | spell => none
  | unknown _ => none

def isAbility : Selector → Bool
  | ability _ => true
  | _ => false

def warning? : Selector → Option String
  | unknown (some text) => some ("Failed to parse selector: " ++ text)
  | _ => none

end Selector

end FeatLoom
