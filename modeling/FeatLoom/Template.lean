import FeatLoom.StatEntry

/-!
# Templates of generated entries

What every generated entry holds before anything is added for a particular feat. A terminal spell
applies the boost of a feat, a container opens a further choice, and a boost is the status that
carries passives and ability increments.
-/

namespace FeatLoom.Template

def filled (name entryType : String) (data : List (String × List String)) : StatEntry :=
  data.foldl (fun entry field => entry.extend field.1 field.2) { name, entryType }

def spellType : String := "SpellData"

def statusType : String := "StatusData"

def spellAnimation : String :=
  "b3b2d16b-61c7-4082-8394-0c04fb9ffdec,,;81c58c55-625d-46c3-bbb7-179b23ef725e,,;" ++
  "3c35a4e1-4441-4603-9c71-82179057d452,,;18c8ab7a-cfef-45b9-851d-e2bc52c9ebc3,,;" ++
  "e601e8fd-4017-4d26-a63a-e1d7362c99b3,,;,,;0b07883a-08b8-43b6-ac18-84dc9e84ff50,,;,,;,,"

def prepareEffect : String := "c520a0bf-adc6-44f6-abcd-94bc0925b881"

def spell (name : String) : StatEntry :=
  filled name spellType [
    ("SpellType", ["Shout"]),
    ("AIFlags", ["CanNotUse"]),
    ("TargetConditions", ["Self()"]),
    ("CastTextEvent", ["Cast"]),
    ("SpellAnimation", [spellAnimation]),
    ("SpellFlags", ["IgnoreSilence"]),
    ("DamageType", ["None"]),
    ("PrepareEffect", [prepareEffect]),
    ("VerbalIntent", ["Utility"]),
    ("UseCosts", ["FeatPoint:1"]),
    ("Requirements", ["!Combat"])]

def container (name : String) : StatEntry :=
  filled name spellType [
    ("SpellType", ["Shout"]),
    ("AIFlags", ["CanNotUse"]),
    ("TargetConditions", ["Self()"]),
    ("CastTextEvent", ["Cast"]),
    ("UseCosts", ["FeatPoint:1"]),
    ("Requirements", ["!Combat"]),
    ("SpellFlags", ["IsLinkedSpellContainer"])]

def boost (name : String) : StatEntry :=
  filled name statusType [
    ("StatusType", ["BOOST"]),
    ("StatusPropertyFlags", ["IgnoreResting", "DisableCombatlog", "ApplyToDead", "DisableOverhead",
      "ExcludeFromPortraitRendering", "DisablePortraitIndicator"]),
    ("StatusGroups", ["SG_RemoveOnRespec"]),
    ("HideOverheadUI", ["1"]),
    ("IsUnique", ["1"]),
    ("Boosts", ["ActionResource(UsedFeatPoints,1,0)"])]

end FeatLoom.Template
