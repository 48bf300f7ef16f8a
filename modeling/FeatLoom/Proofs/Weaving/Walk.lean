import FeatLoom.Proofs.Weaving.Arrival
import FeatLoom.Proofs.Weaving.Refinement

/-!
# The walk through all picks

Weaving walks through the legal picks of all feats depth first. It ends at the first pick that is no
ability, at the first leaf or dead end beyond the limit, or where more picks follow upon one another
than calls may nest, whichever the walk comes to before, and in no other way: whatever it comes to,
there is something to choose for the head. Feats that ask for no more picks than calls may nest do
not end it in the last way.
-/

namespace FeatLoom

namespace Weaving

open EntryDescription (abilityNames)

structure Visit where
  feat : Feat
  spot : Spot
  path : List Nat

namespace Visit

variable (visit : Visit)

def latest? : Option String := Slot.latest? visit.spot.slots visit.path

/-- The last pick, if it is no ability. -/
def unknown? : Option String := visit.latest?.filter (· ∉ abilityNames)

def isEnd : Bool := Slot.isEnd visit.spot.made visit.spot.slots visit.path

/-- A visit that does not end the walk, where calls may nest for a number of picks. -/
def IsPassable (depth : Nat) : Prop := visit.unknown? = none ∧ visit.path.length ≤ depth

def arrival (depth : Nat) : Arrival :=
  arrivalAt visit.feat depth visit.spot.made visit.spot.slots visit.path

section Arrival

variable {visit} {depth : Nat}

theorem arrival_eq : visit.arrival depth =
    match visit.unknown? with
    | some name => .unknown name
    | none =>
      if depth < visit.path.length then .deep
      else if visit.isEnd then .terminal visit.feat
      else .opening := rfl

theorem fault?_arrival_eq_unknown_iff {kind : ListKind} {name : String} :
    (visit.arrival depth).fault? = some (.unknownCandidate kind name) ↔
      kind = .ability ∧ visit.unknown? = some name := by
  rw [arrival_eq]
  cases visit.unknown? with
  | some found => simp [eq_comm]
  | none => by_cases far : depth < visit.path.length <;> cases visit.isEnd <;> simp [far]

theorem fault?_arrival_eq_tooDeep_iff : (visit.arrival depth).fault? = some .tooDeep ↔
    visit.unknown? = none ∧ depth < visit.path.length := by
  rw [arrival_eq]
  cases visit.unknown? with
  | some found => simp
  | none => by_cases far : depth < visit.path.length <;> cases visit.isEnd <;> simp [far]

theorem arrival_of_isPassable (passable : visit.IsPassable depth) :
    visit.arrival depth = if visit.isEnd then .terminal visit.feat else .opening := by
  rw [arrival_eq, passable.1]
  exact if_neg (Nat.not_lt.2 passable.2)

theorem fault?_arrival_eq_none_iff :
    (visit.arrival depth).fault? = none ↔ visit.IsPassable depth := by
  rw [arrival_eq, IsPassable]
  cases visit.unknown? with
  | some found => simp
  | none =>
    by_cases far : depth < visit.path.length
    · simp [far]
    · cases visit.isEnd <;> simp [far, Nat.le_of_not_lt far]

theorem arrival_eq_terminal_iff {feat : Feat} : visit.arrival depth = .terminal feat ↔
    visit.IsPassable depth ∧ visit.isEnd = true ∧ visit.feat = feat := by
  constructor
  · intro arrived
    have passable : visit.IsPassable depth := by
      rw [← fault?_arrival_eq_none_iff, arrived]
      rfl
    rw [arrival_of_isPassable passable] at arrived
    cases ends : visit.isEnd <;> simp_all
  · rintro ⟨passable, ends, rfl⟩
    rw [arrival_of_isPassable passable, if_pos ends]

theorem isTerminal_arrival (passable : visit.IsPassable depth) :
    (visit.arrival depth).isTerminal = visit.isEnd := by
  rw [arrival_of_isPassable passable]
  cases visit.isEnd <;> rfl

end Arrival

/-- The last pick of a visit is below the cap of its choice, and a visit is an end when no further
pick is. -/
structure IsProper : Prop where
  below : ∀ name ∈ visit.latest?, ∃ slot, visit.spot.slots[visit.path.length - 1]? = some slot ∧
    name ∈ slot.candidates ∧ (visit.spot.picksAt visit.path.dropLast).count name < slot.cap
  ends : visit.isEnd = true ↔
    ∀ position, ¬ Slot.IsLegal visit.spot.made visit.spot.slots (visit.path ++ [position])

theorem isProper {visit : Visit}
    (legal : Slot.IsLegal visit.spot.made visit.spot.slots visit.path) : visit.IsProper where
  ends := Slot.isEnd_iff legal
  below := by
    intro name latest
    obtain ⟨feat, spot, path⟩ := visit
    rcases List.eq_nil_or_concat' path with rfl | ⟨before, position, rfl⟩
    · rw [Visit.latest?, Slot.latest?_nil] at latest
      cases latest
    · obtain ⟨slot, picked, inSlots, there, last, few⟩ := Slot.exists_latest? legal
      have seen : Slot.latest? spot.slots (before ++ [position]) = some name := latest
      obtain rfl := Option.some.inj (last.symm.trans seen)
      refine ⟨slot, by simpa using inSlots, there, ?_⟩
      simpa [Spot.picksAt] using few

end Visit

theorem meets_map_arrival {depth : Nat} {goal : Arrival} {passed : Nat} {visits : List Visit} :
    Arrival.Meets goal passed (visits.map fun visit => visit.arrival depth) ↔
      ∃ before visit after, visits = before ++ visit :: after ∧ visit.arrival depth = goal ∧
        (∀ earlier ∈ before, earlier.IsPassable depth) ∧ before.countP Visit.isEnd = passed := by
  have terminals (before : List Visit) (passable : ∀ earlier ∈ before, earlier.IsPassable depth) :
      (before.map fun visit => visit.arrival depth).countP Arrival.isTerminal =
        before.countP Visit.isEnd := by
    rw [List.countP_map]
    exact List.countP_congr fun visit member => by
      rw [Function.comp_apply, Visit.isTerminal_arrival (passable visit member)]
  rw [Arrival.meets_iff]
  constructor
  · rintro ⟨first, second, split, goesOn, rfl⟩
    obtain ⟨before, rest, rfl, rfl, tail⟩ := List.map_eq_append_iff.1 split
    obtain ⟨visit, after, rfl, same, rfl⟩ := List.map_eq_cons_iff.1 tail
    have passable : ∀ earlier ∈ before, earlier.IsPassable depth := by
      intro earlier member
      rw [← Visit.fault?_arrival_eq_none_iff]
      exact goesOn _ (List.mem_map_of_mem member)
    exact ⟨before, visit, after, rfl, same, passable, (terminals before passable).symm⟩
  · rintro ⟨before, visit, after, rfl, rfl, passable, rfl⟩
    refine ⟨_, after.map fun visit => visit.arrival depth, List.map_append, ?_,
      terminals before passable⟩
    rw [List.forall_mem_map]
    exact fun earlier member => Visit.fault?_arrival_eq_none_iff.2 (passable earlier member)

end Weaving

namespace Loom

open Weaving

variable (loom : Loom)

def visits (plot : Guid × Vantage) : List Visit :=
  match woven? plot with
  | none => []
  | some feat =>
    let spot := loom.spot plot.2 feat
    (Slot.pathsFrom spot.made spot.slots).map fun path => ⟨feat, spot, path⟩

def walk : List Visit := loom.plots.flatMap loom.visits

inductive Reaches : Site → Prop where
  | root {plot : Guid × Vantage} {feat : Feat} (member : plot ∈ loom.plots)
      (woven : woven? plot = some feat) : Reaches (loom.rootSite plot.2 feat)
  | pick {site next : Site} {supplier : Vantage} {kind : ListKind}
      {options : List (String × Expansion)} {option : String × Expansion} (before : Reaches site)
      (chosen : site.choice = .ok (.picks supplier kind options)) (picked : option ∈ options)
      (after : site.after? supplier kind option = some next) : Reaches next

variable {loom}

theorem isSupported_of_woven? {plot : Guid × Vantage} {feat : Feat}
    (woven : woven? plot = some feat) : feat.isSupported := (Option.filter_eq_some_iff.1 woven).2

theorem Reaches.awaits {site : Site} (reached : loom.Reaches site) :
    ∃ made items left, Expansion.Awaits id site.state made items left := by
  induction reached with
  | @root plot feat member woven =>
    obtain ⟨items, awaits⟩ := loom.awaits_rootSite (isSupported_of_woven? woven) plot.2
    exact ⟨[], items, _, awaits⟩
  | @pick site next supplier kind options option before chosen picked after ih =>
    obtain ⟨made, items, left, awaits⟩ := ih
    obtain ⟨turn, rest, rfl⟩ := Site.exists_turn_of_picked awaits chosen picked
    obtain ⟨-, candidates, -, each⟩ := Site.picks_of_turn awaits chosen
    obtain ⟨pending, -, following⟩ := awaits.pick option.1
    rw [Site.state_after after, (each option picked).2]
    exact ⟨_, pending, rest, following⟩

theorem Reaches.choice_ok {site : Site} (reached : loom.Reaches site) :
    ∃ choice, site.choice = .ok choice := by
  obtain ⟨made, items, left, awaits⟩ := reached.awaits
  cases left with
  | nil => exact ⟨_, Site.choice_complete awaits⟩
  | cons turn left =>
    cases found : Lookup.supplier? .ability turn.list site.vantage.stack with
    | none => exact ⟨_, Site.choice_missing awaits found⟩
    | some supply => exact ⟨_, Site.choice_picks awaits found⟩

/-! ## All plots -/

theorem mem_walk_iff {visit : Visit} : visit ∈ loom.walk ↔
    ∃ plot ∈ loom.plots, woven? plot = some visit.feat ∧
      visit.spot = loom.spot plot.2 visit.feat ∧
      Slot.IsLegal visit.spot.made visit.spot.slots visit.path := by
  rw [walk, List.mem_flatMap]
  refine exists_congr fun plot => and_congr_right fun _ => ?_
  obtain ⟨feat, spot, path⟩ := visit
  unfold visits
  cases woven? plot with
  | none => simp
  | some other =>
    simp only [List.mem_map, Visit.mk.injEq, Slot.mem_pathsFrom, Option.some.injEq]
    constructor
    · rintro ⟨path, legal, rfl, rfl, rfl⟩
      exact ⟨rfl, rfl, legal⟩
    · rintro ⟨rfl, rfl, legal⟩
      exact ⟨path, legal, rfl, rfl, rfl⟩

theorem follow_growRoot (id : Guid) (vantage : Vantage) (allowed : Nat) :
    (loom.growRoot id vantage allowed).2 =
      Arrival.follow loom.limit ((loom.visits (id, vantage)).map fun visit =>
        visit.arrival loom.depth) allowed := by
  unfold growRoot visits woven?
  cases vantage.module.feat? id with
  | none => rfl
  | some feat =>
    by_cases supported : feat.isSupported
    · obtain ⟨items, awaits⟩ := loom.awaits_rootSite supported vantage
      have grown := follow_grow feat loom.limit awaits allowed
      rw [← awaits.picksLeft_eq] at grown
      simp only [supported, if_true, Option.filter_some]
      rw [List.map_map]
      exact grown
    · simp only [supported, Option.filter_some]
      rfl

theorem follow_growAll (allowed : Nat) :
    (loom.growAll allowed).2 =
      Arrival.follow loom.limit (loom.walk.map fun visit => visit.arrival loom.depth) allowed := by
  have eachFeat : ∀ id ∈ loom.featIds, ∀ allowed, (loom.growFeat id allowed).2 =
      Arrival.follow loom.limit ((Vantage.all loom.modules).map fun vantage =>
        (loom.visits (id, vantage)).map fun visit => visit.arrival loom.depth).flatten allowed := by
    intro id _ allowed
    refine Arrival.follow_growEach ?_ allowed
    rw [List.forall₂_map_right_iff, List.forall₂_same]
    exact fun vantage _ => follow_growRoot id vantage
  have all : (loom.walk.map fun visit => visit.arrival loom.depth) = (loom.featIds.map fun id =>
      ((Vantage.all loom.modules).map fun vantage =>
        (loom.visits (id, vantage)).map fun visit =>
          visit.arrival loom.depth).flatten).flatten := by
    simp only [walk, plots, List.map_flatMap, List.flatMap_assoc, ← List.flatMap_def,
      List.flatMap_map]
  rw [all]
  refine Arrival.follow_growEach ?_ allowed
  rw [List.forall₂_map_right_iff, List.forall₂_same]
  exact eachFeat

theorem fault_eq_some_iff {fabric : Fabric} {fault : WeaveError} :
    (loom.weave fabric).fault = some fault ↔
      Arrival.follow loom.limit (loom.walk.map fun visit => visit.arrival loom.depth)
        (loom.allowance fabric) = .error fault := by
  rw [← follow_growAll, weave]
  rcases loom.growAll (loom.allowance fabric) with ⟨feats, other | left⟩ <;> simp

section Fault

variable {fabric : Fabric}

/-- A run ends at a visit unless it has come to too many leaves and dead ends before. -/
theorem fault_eq_some_iff_visit {fault : WeaveError}
    (other : ∀ bound name, fault ≠ .limitExceeded bound name) :
    (loom.weave fabric).fault = some fault ↔ ∃ before visit after,
      loom.walk = before ++ visit :: after ∧ (visit.arrival loom.depth).fault? = some fault ∧
      (∀ earlier ∈ before, earlier.IsPassable loom.depth) ∧
      before.countP Visit.isEnd ≤ loom.allowance fabric := by
  rw [fault_eq_some_iff, Arrival.follow_eq_fault_iff loom.limit other]
  simp only [meets_map_arrival]
  constructor
  · rintro ⟨_, ends, _, few, before, visit, after, split, rfl, passable, rfl⟩
    exact ⟨before, visit, after, split, ends, passable, few⟩
  · rintro ⟨before, visit, after, split, ends, passable, few⟩
    exact ⟨_, ends, _, few, before, visit, after, split, rfl, passable, rfl⟩

theorem fault_eq_unknown_iff {kind : ListKind} {name : String} :
    (loom.weave fabric).fault = some (.unknownCandidate kind name) ↔
      kind = .ability ∧ ∃ before visit after, loom.walk = before ++ visit :: after ∧
        visit.unknown? = some name ∧ (∀ earlier ∈ before, earlier.IsPassable loom.depth) ∧
        before.countP Visit.isEnd ≤ loom.allowance fabric := by
  have other : ∀ bound feat, WeaveError.unknownCandidate kind name ≠ .limitExceeded bound feat :=
    fun _ _ => nofun
  rw [fault_eq_some_iff_visit other]
  simp only [Visit.fault?_arrival_eq_unknown_iff]
  constructor
  · rintro ⟨before, visit, after, split, ⟨same, unknown⟩, others⟩
    exact ⟨same, before, visit, after, split, unknown, others⟩
  · rintro ⟨same, before, visit, after, split, unknown, others⟩
    exact ⟨before, visit, after, split, ⟨same, unknown⟩, others⟩

theorem fault_eq_tooDeep_iff : (loom.weave fabric).fault = some .tooDeep ↔
    ∃ before visit after, loom.walk = before ++ visit :: after ∧ visit.unknown? = none ∧
      loom.depth < visit.path.length ∧ (∀ earlier ∈ before, earlier.IsPassable loom.depth) ∧
      before.countP Visit.isEnd ≤ loom.allowance fabric := by
  have other : ∀ bound feat, WeaveError.tooDeep ≠ .limitExceeded bound feat := fun _ _ => nofun
  rw [fault_eq_some_iff_visit other]
  simp only [Visit.fault?_arrival_eq_tooDeep_iff, and_assoc]

theorem fault_eq_limit_iff {bound : Int} {name : String} :
    (loom.weave fabric).fault = some (.limitExceeded bound name) ↔
      bound = loom.limit ∧ ∃ before visit after, loom.walk = before ++ visit :: after ∧
        visit.IsPassable loom.depth ∧ visit.isEnd = true ∧ visit.feat.name = name ∧
        (∀ earlier ∈ before, earlier.IsPassable loom.depth) ∧
        before.countP Visit.isEnd = loom.allowance fabric := by
  rw [fault_eq_some_iff, Arrival.follow_eq_limit_iff]
  refine and_congr_right fun _ => ?_
  simp only [meets_map_arrival, Visit.arrival_eq_terminal_iff]
  constructor
  · rintro ⟨feat, rfl, before, visit, after, split, ⟨passable, ends, rfl⟩, others⟩
    exact ⟨before, visit, after, split, passable, ends, rfl, others⟩
  · rintro ⟨before, visit, after, split, passable, ends, rfl, others⟩
    exact ⟨visit.feat, rfl, before, visit, after, split, ⟨passable, ends, rfl⟩, others⟩

theorem fault_cases {fault : WeaveError} (ended : (loom.weave fabric).fault = some fault) :
    (∃ name, fault = .unknownCandidate .ability name) ∨
      (∃ name, fault = .limitExceeded loom.limit name) ∨ fault = .tooDeep := by
  have outcome := fault_eq_some_iff.1 ended
  rcases Arrival.follow_cases loom.limit (loom.walk.map fun visit => visit.arrival loom.depth)
      (loom.allowance fabric) with
    ⟨left, other⟩ | ⟨goal, found, ends, _, _, _, other⟩ | ⟨feat, _, other⟩ <;>
    cases outcome.symm.trans other
  · cases goal with
    | unknown name => exact .inl ⟨name, (Option.some.inj ends).symm⟩
    | deep => exact .inr (.inr (Option.some.inj ends).symm)
    | terminal | opening => cases ends
  · exact .inr (.inl ⟨feat.name, rfl⟩)

end Fault

/-- No feat that is woven asks for more picks than may follow upon one another. -/
def IsShallow (loom : Loom) : Prop :=
  ∀ plot ∈ loom.plots, ∀ feat ∈ woven? plot, feat.pickCount ≤ loom.depth

theorem IsShallow.length_path_le (shallow : loom.IsShallow) {visit : Visit}
    (member : visit ∈ loom.walk) : visit.path.length ≤ loom.depth := by
  obtain ⟨plot, inPlots, woven, same, legal⟩ := mem_walk_iff.1 member
  calc visit.path.length ≤ visit.spot.slots.length := legal.length_le
    _ ≤ visit.spot.left.length := visit.spot.length_slots_le
    _ = visit.feat.pickCount := by
      rw [same]
      exact Expansion.length_turns visit.feat.choices
    _ ≤ loom.depth := shallow plot inPlots visit.feat woven

theorem IsShallow.fault_ne_tooDeep (shallow : loom.IsShallow) (fabric : Fabric) :
    (loom.weave fabric).fault ≠ some .tooDeep := by
  intro ended
  obtain ⟨before, visit, after, split, -, deep, -⟩ := fault_eq_tooDeep_iff.1 ended
  have member : visit ∈ loom.walk := by simp [split]
  exact absurd (shallow.length_path_le member) (Nat.not_le_of_gt deep)

/-- A run ends early in three ways only, because there is something to choose wherever it comes to.
It ends at the first pick that is no ability or that is further down than calls may nest, if no more
leaves and dead ends come before it than are allowed, and otherwise at the leaf or dead end beyond
the limit. Where no feat asks for more picks than may follow upon one another, none is too far down.
The walk visits the legal picks and no others, so a candidate at its maximum plays no part in it.
-/
theorem weave_fault_of_walk (loom : Loom) (fabric : Fabric) :
    (∀ fault ∈ (loom.weave fabric).fault, (∃ name, fault = .unknownCandidate .ability name) ∨
        (∃ name, fault = .limitExceeded loom.limit name) ∨ fault = .tooDeep) ∧
      (∀ site, loom.Reaches site → ∃ choice, site.choice = .ok choice) ∧
      (∀ kind name, (loom.weave fabric).fault = some (.unknownCandidate kind name) ↔
        kind = .ability ∧ ∃ before visit after, loom.walk = before ++ visit :: after ∧
          visit.unknown? = some name ∧ (∀ earlier ∈ before, earlier.IsPassable loom.depth) ∧
          before.countP Visit.isEnd ≤ loom.allowance fabric) ∧
      (∀ bound name, (loom.weave fabric).fault = some (.limitExceeded bound name) ↔
        bound = loom.limit ∧ ∃ before visit after, loom.walk = before ++ visit :: after ∧
          visit.IsPassable loom.depth ∧ visit.isEnd = true ∧ visit.feat.name = name ∧
          (∀ earlier ∈ before, earlier.IsPassable loom.depth) ∧
          before.countP Visit.isEnd = loom.allowance fabric) ∧
      ((loom.weave fabric).fault = some .tooDeep ↔
        ∃ before visit after, loom.walk = before ++ visit :: after ∧
          visit.unknown? = none ∧ loom.depth < visit.path.length ∧
          (∀ earlier ∈ before, earlier.IsPassable loom.depth) ∧
          before.countP Visit.isEnd ≤ loom.allowance fabric) ∧
      (loom.IsShallow → (loom.weave fabric).fault ≠ some .tooDeep ∧
        ∀ visit ∈ loom.walk, visit.IsPassable loom.depth ↔ visit.unknown? = none) ∧
      (∀ visit, visit ∈ loom.walk ↔ ∃ plot ∈ loom.plots, woven? plot = some visit.feat ∧
        visit.spot = loom.spot plot.2 visit.feat ∧
        Slot.IsLegal visit.spot.made visit.spot.slots visit.path) ∧
      ∀ visit ∈ loom.walk, visit.IsProper := by
  refine ⟨fun _ => fault_cases, fun _ => Reaches.choice_ok, fun _ _ => fault_eq_unknown_iff,
    fun _ _ => fault_eq_limit_iff, fault_eq_tooDeep_iff, fun shallow => ?_, fun _ => mem_walk_iff,
    fun visit member => ?_⟩
  · refine ⟨shallow.fault_ne_tooDeep fabric, fun visit member => ?_⟩
    exact and_iff_left (shallow.length_path_le member)
  · obtain ⟨_, _, _, _, legal⟩ := mem_walk_iff.1 member
    exact Visit.isProper legal

/-- Strength is at its maximum when the walk comes to the candidate that is no ability. -/
theorem weave_fault_of_walk_luck :
    let list : OrderedMap Guid (List String) := .ofList [(Guid.nil, ["Strength", "Luck"])]
    let feat : Feat :=
      { id := Guid.nil, name := "Gift", selectors := [.ability ⟨Guid.nil, 2, 1, "Score"⟩] }
    let loom : Loom :=
      { modules := [{ name := some "Own", feats := [feat], lists := .ofList [(.ability, list)] }] }
    (loom.weave {}).fault = some (.unknownCandidate .ability "Luck") ∧ loom.IsShallow ∧
      (∀ visit ∈ loom.walk, visit.IsPassable loom.depth ↔ visit.unknown? = none) ∧
      ∃ before visit after, loom.walk = before ++ visit :: after ∧
        visit.unknown? = some "Luck" ∧ (∀ earlier ∈ before, earlier.IsPassable loom.depth) ∧
        before.countP Visit.isEnd ≤ loom.allowance {} := by
  intro list feat loom
  have ended : (loom.weave {}).fault = some (.unknownCandidate .ability "Luck") := by decide
  have shallow : loom.IsShallow := by
    unfold IsShallow
    decide
  obtain ⟨-, -, unknown, -, -, passable, -⟩ := weave_fault_of_walk loom {}
  exact ⟨ended, shallow, (passable shallow).2, ((unknown .ability "Luck").1 ended).2⟩

/-! ## A feat that leads too far down -/

def strengthFeat (count : Nat) : Feat where
  id := Guid.nil
  name := "Gift"
  selectors := [.ability ⟨Guid.nil, count, count, "Score"⟩]

def strengthVantage (count : Nat) : Vantage where
  module := {
    name := some "Own"
    feats := [strengthFeat count]
    lists := .ofList [(.ability, .ofList [(Guid.nil, ["Strength"])])] }
  below := []

def strengthLoom (count : Nat) : Loom where
  modules := (strengthVantage count).stack

/-- The visit after some picks. -/
def strengthVisit (count picks : Nat) : Visit where
  feat := strengthFeat count
  spot := (strengthLoom count).spot (strengthVantage count) (strengthFeat count)
  path := List.replicate picks 0

theorem slots_strengthVisit (count picks : Nat) :
    (strengthVisit count picks).spot.slots = List.replicate count ⟨["Strength"], count⟩ := by
  have turns : Expansion.turns id (strengthFeat count).choices =
      List.replicate count ⟨Guid.nil, count, count, "Score"⟩ := List.append_nil _
  rw [strengthVisit, Spot.slots, Spot.stages, spot, turns, Stage.along_replicate rfl,
    List.map_replicate]

theorem walk_strengthLoom (count : Nat) :
    (strengthLoom count).walk = (List.range (count + 1)).map (strengthVisit count) := by
  have plots : (strengthLoom count).plots = [(Guid.nil, strengthVantage count)] := rfl
  have woven : woven? (Guid.nil, strengthVantage count) = some (strengthFeat count) := rfl
  have paths : Slot.pathsFrom [] (strengthVisit count 0).spot.slots =
      (List.range (count + 1)).map fun picks => List.replicate picks 0 := by
    rw [slots_strengthVisit]
    exact Slot.pathsFrom_replicate 0 count (Nat.le_of_eq (Nat.zero_add count))
  rw [walk, plots, List.flatMap_singleton, visits, woven]
  exact (congrArg _ paths).trans List.map_map

theorem unknown?_strengthVisit {count picks : Nat} (few : picks ≤ count) :
    (strengthVisit count picks).unknown? = none := by
  have member : strengthVisit count picks ∈ (strengthLoom count).walk := by
    rw [walk_strengthLoom]
    exact List.mem_map_of_mem (List.mem_range.2 (Nat.lt_succ_of_le few))
  obtain ⟨_, _, _, _, legal⟩ := mem_walk_iff.1 member
  rw [Visit.unknown?, Option.filter_eq_none_iff]
  intro name latest
  obtain ⟨slot, there, offered, _⟩ := (Visit.isProper legal).below name latest
  rw [slots_strengthVisit] at there
  obtain rfl := List.eq_of_mem_replicate (List.mem_of_getElem? there)
  obtain rfl := List.mem_singleton.1 offered
  decide

theorem exists_range_eq_append {position size : Nat} (inside : position < size) :
    ∃ after, List.range size = List.range position ++ position :: after := by
  have there : position < (List.range size).length := by rwa [List.length_range]
  have parts := List.take_append_drop position (List.range size)
  rw [List.drop_eq_getElem_cons there, List.getElem_range, List.take_range,
    Nat.min_eq_left (Nat.le_of_lt inside)] at parts
  exact ⟨_, parts.symm⟩

/-- Picks of one ability end a run where they go down further than calls may nest. -/
theorem weave_strengthLoom {count : Nat} (deep : Nesting.usual.picks < count) :
    ((strengthLoom count).weave {}).fault = some .tooDeep := by
  -- The walk takes one pick more at every visit, so the first visit that is too far down is known.
  obtain ⟨after, positions⟩ := exists_range_eq_append (Nat.succ_lt_succ deep)
  have split := walk_strengthLoom count
  rw [positions, List.map_append, List.map_cons] at split
  refine fault_eq_tooDeep_iff.2 ⟨_, _, _, split, unknown?_strengthVisit deep, ?_, ?_, ?_⟩
  · rw [strengthVisit, List.length_replicate]
    exact Nat.lt_succ_self _
  · rw [List.forall_mem_map]
    intro picks few
    have shallow : picks ≤ Nesting.usual.picks := Nat.le_of_lt_succ (List.mem_range.1 few)
    refine ⟨unknown?_strengthVisit (by omega), ?_⟩
    rwa [strengthVisit, List.length_replicate]
  · have allowed : Nesting.usual.picks + 1 ≤ (strengthLoom count).allowance {} := by
      unfold allowance
      exact (by decide : 988 + 1 ≤ 100000)
    calc List.countP Visit.isEnd _ ≤ _ := List.countP_le_length
      _ = Nesting.usual.picks + 1 := by rw [List.length_map, List.length_range]
      _ ≤ (strengthLoom count).allowance {} := allowed

/-- Nothing that the feat picks is unknown, and the run allows for far more leaves than it has. -/
theorem weave_ends_at_deep_feat : ((strengthLoom 3000).weave {}).fault = some .tooDeep :=
  weave_strengthLoom (by decide)

end Loom

end FeatLoom
