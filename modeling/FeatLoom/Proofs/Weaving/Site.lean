import FeatLoom.Proofs.StatEntry
import FeatLoom.Weaving.Growth

/-!
# What the spells of a site hold

The spells of a site have its name, are found under its container and are kept by the conditions of
the feat, of the raised abilities and of the passives. The spell that opens a choice is marked as a
container; the one that ends the choices is not, and it applies the boost.
-/

namespace FeatLoom.Weaving.Site

variable (site : Site) (feat : Feat)

theorem spellName_ne_empty : site.spellName ≠ "" := by
  simp [spellName, spellPrefix]

section After

variable {site} {next : Site} {supplier : Vantage} {kind : ListKind} {option : String × Expansion}
  (after : site.after? supplier kind option = some next)

include after

theorem stem_after : next.stem =
    site.stem ++ "_" ++ option.1 ++ "_" ++ supplier.module.normalizedName := by
  obtain ⟨_, _, rfl⟩ := Option.map_eq_some_iff.1 after
  rfl

theorem vantage_after : next.vantage = supplier := by
  obtain ⟨_, _, rfl⟩ := Option.map_eq_some_iff.1 after
  rfl

theorem container_after : next.container = site.spellName := by
  obtain ⟨_, _, rfl⟩ := Option.map_eq_some_iff.1 after
  rfl

theorem state_after : next.state = option.2 := by
  obtain ⟨_, _, rfl⟩ := Option.map_eq_some_iff.1 after
  rfl

theorem room_after : next.room = site.room - 1 := by
  obtain ⟨_, _, rfl⟩ := Option.map_eq_some_iff.1 after
  rfl

end After

def conditions : List String :=
  (feat.requirements.toList ++ site.state.requirements ++ passiveGuards feat).filter (· ≠ "")

section Finish

variable (template : StatEntry)

@[simp] theorem name_finish : (site.finish feat template).name = template.name := by
  simp [finish]

theorem containers_finish :
    (site.finish feat template).valuesOf "SpellContainerID" =
      template.valuesOf "SpellContainerID" ++ [site.container].filter (· ≠ "") := by
  simp [finish]

theorem conditions_finish :
    (site.finish feat template).valuesOf "RequirementConditions" =
      template.valuesOf "RequirementConditions" ++ site.conditions feat := by
  simp [finish, conditions]

theorem valuesOf_finish {key : String} (other : key ∉ ["SpellContainerID",
    "RequirementConditions", "DisplayName", "Description", "Icon"]) :
    (site.finish feat template).valuesOf key = template.valuesOf key := by
  simp only [List.mem_cons, List.not_mem_nil, or_false, not_or] at other
  simp [finish, eq_comm, other]

end Finish

@[simp] theorem name_openingSpell :
    (site.openingSpell feat).entry.name = site.spellName := by
  simp [openingSpell]

@[simp] theorem name_endingSpell : (site.endingSpell feat).entry.name = site.spellName := by
  simp [endingSpell]

@[simp] theorem name_applyingSpell :
    (site.applyingSpell feat).entry.name = site.spellName := by
  simp [applyingSpell]

theorem containers_openingSpell :
    (site.openingSpell feat).entry.valuesOf "SpellContainerID" =
      [site.container].filter (· ≠ "") := by
  rw [openingSpell, containers_finish, Template.container, Template.valuesOf_filled]
  simp [Template.fieldValues]

theorem containers_endingSpell :
    (site.endingSpell feat).entry.valuesOf "SpellContainerID" =
      [site.container].filter (· ≠ "") := by
  rw [endingSpell, containers_finish, Template.spell, Template.valuesOf_filled]
  simp [Template.fieldValues]

theorem valuesOf_applyingSpell {key : String} (other : key ≠ "SpellProperties") :
    (site.applyingSpell feat).entry.valuesOf key = (site.endingSpell feat).entry.valuesOf key := by
  simp [applyingSpell, other.symm]

theorem containers_applyingSpell :
    (site.applyingSpell feat).entry.valuesOf "SpellContainerID" =
      [site.container].filter (· ≠ "") := by
  rw [valuesOf_applyingSpell _ _ (by decide), containers_endingSpell]

theorem conditions_openingSpell :
    (site.openingSpell feat).entry.valuesOf "RequirementConditions" = site.conditions feat := by
  rw [openingSpell, conditions_finish, Template.container, Template.valuesOf_filled]
  simp [Template.fieldValues]

theorem conditions_applyingSpell :
    (site.applyingSpell feat).entry.valuesOf "RequirementConditions" = site.conditions feat := by
  rw [valuesOf_applyingSpell _ _ (by decide), endingSpell, conditions_finish, Template.spell,
    Template.valuesOf_filled]
  simp [Template.fieldValues]

theorem flags_openingSpell :
    (site.openingSpell feat).entry.valuesOf "SpellFlags" = ["IsLinkedSpellContainer"] := by
  rw [openingSpell, valuesOf_finish _ _ _ (by decide), Template.container,
    Template.valuesOf_filled]
  simp [Template.fieldValues]

theorem flags_applyingSpell :
    (site.applyingSpell feat).entry.valuesOf "SpellFlags" = ["IgnoreSilence"] := by
  rw [valuesOf_applyingSpell _ _ (by decide), endingSpell, valuesOf_finish _ _ _ (by decide),
    Template.spell, Template.valuesOf_filled]
  simp [Template.fieldValues]

theorem properties_openingSpell :
    (site.openingSpell feat).entry.valuesOf "SpellProperties" = [] := by
  rw [openingSpell, valuesOf_finish _ _ _ (by decide), Template.container,
    Template.valuesOf_filled]
  simp [Template.fieldValues]

theorem properties_applyingSpell :
    (site.applyingSpell feat).entry.valuesOf "SpellProperties" =
      ["ApplyStatus(" ++ site.boostName ++ ",-1,-1)"] := by
  have ending : (site.endingSpell feat).entry.valuesOf "SpellProperties" = [] := by
    rw [endingSpell, valuesOf_finish _ _ _ (by decide), Template.spell, Template.valuesOf_filled]
    simp [Template.fieldValues]
  simp [applyingSpell, ending]

@[simp] theorem name_boost : (site.boost feat).name = site.boostName := by
  simp [boost]

theorem passives_boost :
    (site.boost feat).valuesOf "Passives" = feat.passives.filter (· ≠ "") := by
  simp [boost, Template.boost, Template.valuesOf_filled, Template.fieldValues]

theorem boosts_boost :
    (site.boost feat).valuesOf "Boosts" =
      "ActionResource(UsedFeatPoints,1,0)" :: site.state.boosts := by
  have named : ∀ boost ∈ site.state.boosts, boost ≠ "" := by
    intro boost member
    obtain ⟨entry, _, rfl⟩ := List.mem_map.1 member
    simp
  simpa [boost, Template.boost, Template.valuesOf_filled, Template.fieldValues] using named

end FeatLoom.Weaving.Site
