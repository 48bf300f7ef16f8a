import FeatLoom.Selector
import FeatLoom.Text.Quoted

/-!
# Writing selectors

`toText?` writes a selector as a call of the selector language, in its shortest spelling.
`describe` shows a selector field by field, as the command line does.
-/

namespace FeatLoom.Selector

def call (name : String) (arguments : List String) : String :=
  name ++ "(" ++ ",".intercalate arguments ++ ")"

def flagText : Bool → String
  | true => "true"
  | false => "false"

/-- The call that denotes a selector; spell choices and unknown texts have none. -/
def toText? : Selector → Option String
  | ability choice => some (call "SelectAbilities"
      [toString choice.list, toString choice.count, toString choice.max, choice.label])
  | skill list count label => some (call "SelectSkills"
      ([toString list, toString count] ++ label.toList))
  | expertise list count flag => some (call "SelectSkillsExpertise"
      ([toString list, toString count] ++ (flag.map flagText).toList))
  | passive list count category => some (call "SelectPassives"
      ([toString list, toString count] ++ category.toList))
  | spell => none
  | unknown _ => none

def describeText : Option String → String
  | none => "None"
  | some text => Text.quoted text

def describeFlag : Option Bool → String
  | none => "None"
  | some true => "True"
  | some false => "False"

def describeGuid (id : Guid) : String := "UUID('" ++ toString id ++ "')"

def describeFields (name : String) (fields : List (String × String)) : String :=
  call name [", ".intercalate (fields.map fun field => field.1 ++ "=" ++ field.2)]

def describe : Selector → String
  | ability choice => describeFields "AbilitySelector"
      [("id", describeGuid choice.list), ("count", toString choice.count),
        ("max", toString choice.max), ("label", Text.quoted choice.label)]
  | skill list count label => describeFields "SkillSelector"
      [("id", describeGuid list), ("count", toString count), ("label", describeText label)]
  | expertise list count flag => describeFields "ExpertiseSelector"
      [("id", describeGuid list), ("count", toString count), ("flag", describeFlag flag)]
  | passive list count category => describeFields "PassiveSelector"
      [("id", describeGuid list), ("count", toString count), ("category", describeText category)]
  | spell => describeFields "SpellSelector" []
  | unknown (some text) => describeFields "UnknownSelector" [("text", Text.quoted text)]
  | unknown none => describeFields "Selector" []

end FeatLoom.Selector
