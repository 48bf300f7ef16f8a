import FeatLoom.Expansion
import FeatLoom.Lookup
import FeatLoom.Template
import FeatLoom.Weaving.Woven

/-!
# Growing a tree

A tree grows at a site: the module that supplied the last pick, the state of the choices, and the
names and descriptions that lead there. Growth goes depth first and takes the legal picks in the
order of the candidates. Leaves and dead ends count against a limit for the whole run; growth ends
at the first one beyond it, or at the first candidate that nothing is known of, and what had grown
by then stays. It also ends where picks follow upon one another further than calls may nest.
-/

namespace FeatLoom

inductive WeaveError where
  | unknownCandidate (kind : ListKind) (candidate : String)
  /-- More leaves and dead ends than the limit allows; the feat is the one being woven then. -/
  | limitExceeded (limit : Int) (feat : String)
  | noListKind (kind : SelectorKind)
  | unimplemented (kind : SelectorKind)
  | tooDeep
  deriving DecidableEq

namespace WeaveError

def message : WeaveError → String
  | unknownCandidate kind candidate =>
    "No description for " ++ kind.name ++ " candidate " ++ Text.quoted candidate
  | limitExceeded limit feat =>
    "More than " ++ toString limit ++ " generated leaves in this run " ++
      "(limit crossed while weaving feat " ++ feat ++ ")"
  | noListKind kind => "No candidate lists for " ++ kind.name ++ " selectors"
  | unimplemented kind => Expansion.unimplementedMessage kind
  | tooDeep => "Calls nest too deep"

end WeaveError

namespace Weaving

/-- What has grown, and how many more leaves and dead ends are allowed unless growth has ended. -/
abbrev Growth (α : Type) := α × Except WeaveError Nat

def growEach {α β : Type} (grow : α → Nat → Growth (Option β)) :
    List α → Nat → Growth (List β)
  | [], allowed => ([], .ok allowed)
  | item :: rest, allowed =>
    match grow item allowed with
    | (grown, .error fault) => (grown.toList, .error fault)
    | (grown, .ok left) =>
      let more := growEach grow rest left
      (grown.toList ++ more.1, more.2)

structure Site where
  stem : String
  vantage : Vantage
  description : EntryDescription
  container : String
  state : Expansion
  /-- How many picks may still follow upon one another before calls nest too deep. -/
  room : Nat

def spellPrefix : String := "E6_Shout_"

def boostPrefix : String := "E6_FEAT_"

namespace Site

def spellName (site : Site) : String := spellPrefix ++ site.stem

def boostName (site : Site) : String := boostPrefix ++ site.stem

def moduleName (site : Site) : String := site.vantage.module.normalizedName

/-- Keeps a feat from being taken again. -/
def passiveGuards (feat : Feat) : List String :=
  if feat.repeatable then []
  else feat.passives.map fun passive => "not HasPassive('" ++ passive ++ "', context.Source)"

def finish (site : Site) (feat : Feat) (template : StatEntry) : StatEntry :=
  let reference (text : Option LocalizedString) : List String := (text.map toString).toList
  ((((((template.add "SpellContainerID" site.container).extend
    "RequirementConditions" feat.requirements.toList).extend
    "RequirementConditions" site.state.requirements).extend
    "RequirementConditions" (passiveGuards feat)).extend
    "DisplayName" (reference site.description.displayName)).extend
    "Description" (reference site.description.description)).add
    "Icon" site.description.icon

def openingSpell (site : Site) (feat : Feat) : ModuleSpell :=
  ⟨site.moduleName, site.finish feat (Template.container site.spellName)⟩

def endingSpell (site : Site) (feat : Feat) : ModuleSpell :=
  ⟨site.moduleName, site.finish feat (Template.spell site.spellName)⟩

def applyingSpell (site : Site) (feat : Feat) : ModuleSpell :=
  let spell := site.endingSpell feat
  { spell with
    entry := spell.entry.add "SpellProperties" ("ApplyStatus(" ++ site.boostName ++ ",-1,-1)") }

def boost (site : Site) (feat : Feat) : StatEntry :=
  let named := Template.boost site.boostName
  (named.extend "Passives" feat.passives).extend "Boosts" site.state.boosts

def missingListWarning (site : Site) (feat : Feat) (kind : ListKind) (list : Guid) : String :=
  "No " ++ kind.name ++ " list " ++ toString list ++ " for feat " ++ feat.name ++ " in " ++
    site.vantage.module.shownName

inductive Choice where
  | missing (kind : ListKind) (list : Guid)
  | picks (supplier : Vantage) (kind : ListKind) (options : List (String × Expansion))

def choice (site : Site) : Except WeaveError Choice :=
  match site.state.current? with
  | none => .ok (.picks site.vantage .ability [])
  | some selector =>
    match ListKind.ofSelector? selector.kind, selector.list? with
    | some kind, some list =>
      match Lookup.supplier? kind list site.vantage.stack with
      | none => .ok (.missing kind list)
      | some (supplier, candidates) =>
        match site.state.expand candidates with
        | .ok options => .ok (.picks supplier kind options)
        | .error kind => .error (.unimplemented kind)
    | _, _ => .error (.noListKind selector.kind)

/-- The site after a pick, if something is known of the candidate. -/
def after? (site : Site) (supplier : Vantage) (kind : ListKind) (option : String × Expansion) :
    Option Site :=
  (EntryDescription.ofCandidate? kind option.1).map fun description =>
    { stem := site.stem ++ "_" ++ option.1 ++ "_" ++ supplier.module.normalizedName
      vantage := supplier
      description
      container := site.spellName
      state := option.2
      room := site.room - 1 }

end Site

def count (feat : Feat) (limit : Int) : Nat → Except WeaveError Nat
  | 0 => .error (.limitExceeded limit feat.name)
  | left + 1 => .ok left

def growLeaf (feat : Feat) (limit : Int) (site : Site) (allowed : Nat) : Growth Woven :=
  match count feat limit allowed with
  | .error fault => (.leaf (site.endingSpell feat) none, .error fault)
  | .ok left => (.leaf (site.applyingSpell feat) (some (site.boost feat)), .ok left)

def grow (feat : Feat) (limit : Int) : Nat → Site → Nat → Growth Woven
  | 0, site, allowed => growLeaf feat limit site allowed
  | depth + 1, site, allowed =>
    let spell := site.openingSpell feat
    match site.choice with
    | .error fault => (.branch spell [], .error fault)
    | .ok (.missing kind list) =>
      (.deadEnd spell (some (site.missingListWarning feat kind list)), count feat limit allowed)
    | .ok (.picks _ _ []) => (.deadEnd spell none, count feat limit allowed)
    | .ok (.picks supplier kind options) =>
      let growPick (option : String × Expansion) (left : Nat) : Growth (Option Woven) :=
        match site.after? supplier kind option with
        | none => (none, .error (.unknownCandidate kind option.1))
        | some next =>
          if site.room = 0 then (none, .error .tooDeep)
          else
            let (tree, outcome) := grow feat limit depth next left
            (some tree, outcome)
      let (children, outcome) := growEach growPick options allowed
      (.branch spell children, outcome)

end Weaving

end FeatLoom
