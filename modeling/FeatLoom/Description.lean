import FeatLoom.Module

/-!
# Descriptions of entries

A generated spell shows a name, a text and an icon. Of the candidates of a choice only the six
abilities have a description; it points into the localization tables of the game.
-/

namespace FeatLoom

def genericIcon : String := "PassiveFeature_Generic_Magical"

structure EntryDescription where
  displayName : Option LocalizedString := none
  description : Option LocalizedString := none
  icon : String := genericIcon
  deriving DecidableEq, Inhabited

namespace EntryDescription

def firstVersion (handle : String) : LocalizedString := ⟨handle, some 1⟩

def abilityHandles : List (String × String × String) := [
  ("Strength", "h6c83537fg6358g41e0g8a18g32cc8316ced2_1", "haaf3959ag320eg4f68ga9c9gc143d7f64a8c"),
  ("Dexterity", "h6c83537fg6358g41e0g8a18g32cc8316ced2_2", "hbf128ebdgdfffg4ea9gbf4bg1659ccefd287"),
  ("Constitution", "h6c83537fg6358g41e0g8a18g32cc8316ced2_3",
    "h7a02f64dg4593g408fgbf93gb0dbabc182c9"),
  ("Intelligence", "h6c83537fg6358g41e0g8a18g32cc8316ced2_4",
    "h411a732ag4b4cg4094g9a5egd325fecf4645"),
  ("Wisdom", "h6c83537fg6358g41e0g8a18g32cc8316ced2_5", "h35233e68gf68ag461cgac5fgc15806be3dc7"),
  ("Charisma", "h6c83537fg6358g41e0g8a18g32cc8316ced2_6", "h441085efge3a5g4004gba8dgf2378e8986c8")]

def abilityNames : List String := abilityHandles.map Prod.fst

def ofHandles (handles : String × String) : EntryDescription where
  displayName := some (firstVersion handles.1)
  description := some (firstVersion handles.2)

def ofCandidate? (kind : ListKind) (candidate : String) : Option EntryDescription :=
  if kind = .ability then (abilityHandles.lookup candidate).map ofHandles else none

end EntryDescription

end FeatLoom
