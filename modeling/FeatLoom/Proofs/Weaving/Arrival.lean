import FeatLoom.Proofs.Weaving.KnownPicks

/-!
# What a walk comes to

Growth walks through the picks of a feat depth first. What ends it is decided by what it comes to,
one path of picks after the other: a pick that is no ability and a pick further down than calls may
nest end it there, and every leaf and dead end counts against the limit. So the outcome of growth
follows from the list of what is come to.
-/

namespace FeatLoom

namespace EntryDescription

theorem isSome_ofCandidate? {candidate : String} :
    (ofCandidate? .ability candidate).isSome ↔ candidate ∈ abilityNames := by
  constructor
  · intro some
    obtain ⟨description, found⟩ := Option.isSome_iff_exists.1 some
    exact mem_abilityNames found
  · intro member
    have all : ∀ name ∈ abilityNames, (ofCandidate? .ability name).isSome := by decide
    exact all candidate member

end EntryDescription

namespace Slot

variable (earlier : List String) (slots : List Slot) (path : List Nat)

def latest? : Option String := (names slots path).getLast?

def isEnd : Bool :=
  match slots.drop path.length with
  | [] => true
  | slot :: _ => (slot.legal (earlier ++ names slots path)).isEmpty

theorem isEnd_cons {slot : Slot} {position : Nat} {name : String}
    (there : slot.candidates[position]? = some name) :
    isEnd earlier (slot :: slots) (position :: path) = isEnd (earlier ++ [name]) slots path := by
  rw [isEnd, isEnd, List.length_cons, List.drop_succ_cons, names_cons there, List.append_assoc,
    List.singleton_append]

theorem latest?_nil : latest? slots [] = none := by
  rw [latest?, names, List.zipWith_nil_right]
  rfl

theorem latest?_cons {slot : Slot} {position : Nat} {name : String}
    (there : slot.candidates[position]? = some name) :
    latest? (slot :: slots) (position :: path) = some ((latest? slots path).getD name) := by
  rw [latest?, names_cons there, List.getLast?_cons, latest?]

theorem isEnd_iff {earlier : List String} {slots : List Slot} {path : List Nat}
    (legal : IsLegal earlier slots path) :
    isEnd earlier slots path = true ↔ ∀ position, ¬ IsLegal earlier slots (path ++ [position]) := by
  induction slots generalizing earlier path with
  | nil =>
    obtain rfl := List.eq_nil_of_length_eq_zero (Nat.le_zero.1 legal.length_le)
    simp only [isEnd, List.drop_nil, true_iff]
    intro position more
    exact absurd more.length_le (by simp)
  | cons slot slots ih =>
    cases path with
    | nil =>
      rw [isEnd, List.length_nil, List.drop_zero, names, List.zipWith_nil_right, List.append_nil,
        List.isEmpty_iff, List.eq_nil_iff_forall_not_mem]
      simp only [List.nil_append, isLegal_cons]
      constructor
      · rintro none position ⟨name, picked, _⟩
        exact none _ picked
      · rintro none ⟨name, position⟩ picked
        exact none position ⟨name, picked, isLegal_nil _ _⟩
    | cons position path =>
      obtain ⟨name, picked, rest⟩ := (isLegal_cons ..).1 legal
      obtain ⟨there, few⟩ := (mem_legal ..).1 picked
      rw [isEnd_cons _ _ _ there, ih rest]
      refine forall_congr' fun next => not_congr ?_
      rw [List.cons_append, isLegal_cons]
      constructor
      · intro more
        exact ⟨name, picked, more⟩
      · rintro ⟨other, pickedToo, more⟩
        obtain ⟨thereToo, _⟩ := (mem_legal ..).1 pickedToo
        obtain rfl := Option.some.inj (there.symm.trans thereToo)
        exact more

theorem exists_latest? {earlier : List String} {slots : List Slot} {before : List Nat}
    {position : Nat} (legal : IsLegal earlier slots (before ++ [position])) :
    ∃ slot name, slots[before.length]? = some slot ∧ name ∈ slot.candidates ∧
      latest? slots (before ++ [position]) = some name ∧
      (earlier ++ names slots before).count name < slot.cap := by
  induction slots generalizing earlier before with
  | nil => exact absurd legal.length_le (by simp)
  | cons slot slots ih =>
    cases before with
    | nil =>
      obtain ⟨name, picked, _⟩ := (isLegal_cons ..).1 legal
      obtain ⟨there, few⟩ := (mem_legal ..).1 picked
      refine ⟨slot, name, rfl, List.mem_of_getElem? there, ?_, by simpa [names] using few⟩
      rw [List.nil_append, latest?_cons _ _ there, latest?_nil, Option.getD_none]
    | cons first before =>
      obtain ⟨name, picked, rest⟩ := (isLegal_cons ..).1 legal
      obtain ⟨there, _⟩ := (mem_legal ..).1 picked
      obtain ⟨last, latest, inSlots, offered, found, few⟩ := ih rest
      refine ⟨last, latest, inSlots, offered, ?_, ?_⟩
      · rw [List.cons_append, latest?_cons _ _ there, found, Option.getD_some]
      · rwa [names_cons there, List.append_cons]

end Slot

namespace Weaving

/-! ## Following arrivals -/

inductive Arrival where
  | unknown (name : String)
  /-- A pick further down than calls may nest. -/
  | deep
  | terminal (feat : Feat)
  | opening
  deriving DecidableEq

namespace Arrival

/-- The error that a walk ends with there. -/
@[simp] def fault? : Arrival → Option WeaveError
  | unknown name => some (.unknownCandidate .ability name)
  | deep => some .tooDeep
  | terminal _ | opening => none

@[simp] def isTerminal : Arrival → Bool
  | terminal _ => true
  | unknown _ | deep | opening => false

theorem fault?_ne_limit {arrival : Arrival} {fault : WeaveError}
    (ends : arrival.fault? = some fault) (bound : Int) (name : String) :
    fault ≠ .limitExceeded bound name := by
  rintro rfl
  cases arrival <;> cases ends

def follow (limit : Int) : List Arrival → Nat → Except WeaveError Nat
  | [], allowed => .ok allowed
  | unknown name :: _, _ => .error (.unknownCandidate .ability name)
  | deep :: _, _ => .error .tooDeep
  | terminal feat :: rest, allowed =>
    match count feat limit allowed with
    | .error fault => .error fault
    | .ok left => follow limit rest left
  | opening :: rest, allowed => follow limit rest allowed

theorem follow_append (limit : Int) (first second : List Arrival) (allowed : Nat) :
    follow limit (first ++ second) allowed =
      match follow limit first allowed with
      | .error fault => .error fault
      | .ok left => follow limit second left := by
  induction first generalizing allowed with
  | nil => rfl
  | cons arrival first ih =>
    cases arrival with
    | unknown name => rfl
    | deep => rfl
    | opening => exact ih allowed
    | terminal feat =>
      rw [List.cons_append, follow, follow]
      cases count feat limit allowed with
      | error fault => rfl
      | ok left => exact ih left

theorem follow_terminal (limit : Int) (feat : Feat) (allowed : Nat) :
    follow limit [terminal feat] allowed = count feat limit allowed := by
  rw [follow]
  cases count feat limit allowed <;> rfl

theorem follow_growEach {α β : Type} {limit : Int} {grow : α → Nat → Growth (Option β)}
    {items : List α} {arrivals : List (List Arrival)}
    (each : List.Forall₂ (fun item list =>
      ∀ allowed, (grow item allowed).2 = follow limit list allowed) items arrivals)
    (allowed : Nat) :
    (growEach grow items allowed).2 = follow limit arrivals.flatten allowed := by
  induction each generalizing allowed with
  | nil => rfl
  | @cons item list items arrivals first _ ih =>
    rw [List.flatten_cons, follow_append, ← first allowed, growEach]
    obtain ⟨grown, fault | left⟩ := grow item allowed
    · rfl
    · exact ih left

/-- A walk comes to an arrival after a number of terminals, and nothing before ends it. -/
inductive Meets (goal : Arrival) : Nat → List Arrival → Prop where
  | here (rest : List Arrival) : Meets goal 0 (goal :: rest)
  | pastOpening {before : Nat} {rest : List Arrival} (later : Meets goal before rest) :
      Meets goal before (opening :: rest)
  | pastTerminal {before : Nat} {rest : List Arrival} (feat : Feat)
      (later : Meets goal before rest) : Meets goal (before + 1) (terminal feat :: rest)

theorem meets_iff {goal : Arrival} {passed : Nat} {arrivals : List Arrival} :
    Meets goal passed arrivals ↔ ∃ before after, arrivals = before ++ goal :: after ∧
      (∀ arrival ∈ before, arrival.fault? = none) ∧ before.countP isTerminal = passed := by
  constructor
  · intro met
    induction met with
    | here rest => exact ⟨[], rest, rfl, by simp, rfl⟩
    | pastOpening _ ih =>
      obtain ⟨before, after, rfl, known, rfl⟩ := ih
      exact ⟨opening :: before, after, rfl, List.forall_mem_cons.2 ⟨rfl, known⟩,
        List.countP_cons_of_neg (by simp)⟩
    | pastTerminal feat _ ih =>
      obtain ⟨before, after, rfl, known, rfl⟩ := ih
      exact ⟨terminal feat :: before, after, rfl, List.forall_mem_cons.2 ⟨rfl, known⟩,
        List.countP_cons_of_pos rfl⟩
  · rintro ⟨before, after, rfl, known, rfl⟩
    induction before with
    | nil => exact .here after
    | cons arrival before ih =>
      rw [List.forall_mem_cons] at known
      cases arrival with
      | unknown name => cases known.1
      | deep => cases known.1
      | opening =>
        rw [List.countP_cons_of_neg (by simp)]
        exact .pastOpening (ih known.2)
      | terminal feat =>
        rw [List.countP_cons_of_pos rfl]
        exact .pastTerminal feat (ih known.2)

section Follow

variable (limit : Int) {arrivals : List Arrival} {allowed : Nat}

theorem follow_of_meets_fault {goal : Arrival} {fault : WeaveError} {passed : Nat}
    (ends : goal.fault? = some fault) (few : passed ≤ allowed)
    (met : Meets goal passed arrivals) : follow limit arrivals allowed = .error fault := by
  induction met generalizing allowed with
  | here rest =>
    cases goal <;> cases ends
    · rfl
    · rfl
  | pastOpening _ ih => exact ih few
  | pastTerminal feat _ ih =>
    cases allowed with
    | zero => exact absurd few (Nat.not_succ_le_zero _)
    | succ left => exact ih (Nat.le_of_succ_le_succ few)

theorem follow_of_meets_terminal {feat : Feat} (met : Meets (terminal feat) allowed arrivals) :
    follow limit arrivals allowed = .error (.limitExceeded limit feat.name) := by
  induction met with
  | here rest => rfl
  | pastOpening _ ih => exact ih
  | pastTerminal other _ ih => exact ih

/-- A walk comes to its end, to an arrival that ends it, or to one terminal too many. -/
theorem follow_cases (arrivals : List Arrival) (allowed : Nat) :
    (∃ left, follow limit arrivals allowed = .ok left) ∨
      (∃ goal fault, goal.fault? = some fault ∧ ∃ passed ≤ allowed, Meets goal passed arrivals ∧
        follow limit arrivals allowed = .error fault) ∨
      ∃ feat, Meets (terminal feat) allowed arrivals ∧
        follow limit arrivals allowed = .error (.limitExceeded limit feat.name) := by
  induction arrivals generalizing allowed with
  | nil => exact .inl ⟨allowed, rfl⟩
  | cons arrival arrivals ih =>
    cases arrival with
    | unknown name => exact .inr (.inl ⟨_, _, rfl, 0, Nat.zero_le _, .here arrivals, rfl⟩)
    | deep => exact .inr (.inl ⟨_, _, rfl, 0, Nat.zero_le _, .here arrivals, rfl⟩)
    | opening =>
      rcases ih allowed with
        done | ⟨goal, fault, ends, passed, few, met, ended⟩ | ⟨feat, met, ended⟩
      · exact .inl done
      · exact .inr (.inl ⟨goal, fault, ends, passed, few, .pastOpening met, ended⟩)
      · exact .inr (.inr ⟨feat, .pastOpening met, ended⟩)
    | terminal feat =>
      cases allowed with
      | zero => exact .inr (.inr ⟨feat, .here arrivals, rfl⟩)
      | succ left =>
        rcases ih left with
          done | ⟨goal, fault, ends, passed, few, met, ended⟩ | ⟨other, met, ended⟩
        · exact .inl done
        · exact .inr (.inl ⟨goal, fault, ends, passed + 1, Nat.succ_le_succ few,
            .pastTerminal feat met, ended⟩)
        · exact .inr (.inr ⟨other, .pastTerminal feat met, ended⟩)

/-- A walk ends at an arrival unless it has come to too many terminals before. -/
theorem follow_eq_fault_iff {fault : WeaveError}
    (other : ∀ bound name, fault ≠ .limitExceeded bound name) :
    follow limit arrivals allowed = .error fault ↔
      ∃ goal, goal.fault? = some fault ∧ ∃ passed ≤ allowed, Meets goal passed arrivals := by
  constructor
  · intro ended
    rcases follow_cases limit arrivals allowed with
      ⟨left, done⟩ | ⟨goal, found, ends, passed, few, met, done⟩ | ⟨feat, met, done⟩
    · cases ended.symm.trans done
    · cases ended.symm.trans done
      exact ⟨goal, ends, passed, few, met⟩
    · exact absurd (Except.error.inj (ended.symm.trans done)) (other limit feat.name)
  · rintro ⟨goal, ends, passed, few, met⟩
    exact follow_of_meets_fault limit ends few met

theorem follow_eq_limit_iff {bound : Int} {name : String} :
    follow limit arrivals allowed = .error (.limitExceeded bound name) ↔
      bound = limit ∧ ∃ feat : Feat, feat.name = name ∧ Meets (terminal feat) allowed arrivals := by
  constructor
  · intro ended
    rcases follow_cases limit arrivals allowed with
      ⟨left, done⟩ | ⟨goal, found, ends, passed, few, met, done⟩ | ⟨feat, met, done⟩
    · cases ended.symm.trans done
    · exact absurd (Except.error.inj (done.symm.trans ended)) (fault?_ne_limit ends bound name)
    · cases ended.symm.trans done
      exact ⟨rfl, feat, rfl, met⟩
  · rintro ⟨rfl, feat, rfl, met⟩
    exact follow_of_meets_terminal _ met

end Follow

end Arrival

/-! ## Trees -/

open EntryDescription (abilityNames)

def arrivalAt (feat : Feat) (room : Nat) (made : List String) (slots : List Slot)
    (path : List Nat) : Arrival :=
  match (Slot.latest? slots path).filter (· ∉ abilityNames) with
  | some name => .unknown name
  | none =>
    if room < path.length then .deep
    else if Slot.isEnd made slots path then .terminal feat
    else .opening

section ArrivalAt

variable (feat : Feat) (room : Nat) (made : List String) {slot : Slot} (slots : List Slot)
  {position : Nat} {name : String} (there : slot.candidates[position]? = some name)

theorem arrivalAt_nil : arrivalAt feat room made slots [] =
    if Slot.isEnd made slots [] then .terminal feat else .opening := by
  rw [arrivalAt, Slot.latest?_nil]
  rfl

include there

theorem arrivalAt_cons (known : name ∈ abilityNames) (path : List Nat) :
    arrivalAt feat (room + 1) made (slot :: slots) (position :: path) =
      arrivalAt feat room (made ++ [name]) slots path := by
  rw [arrivalAt, Slot.latest?_cons _ _ there, Slot.isEnd_cons _ _ _ there, arrivalAt]
  cases Slot.latest? slots path with
  | none => simp [Option.filter_some, known]
  | some latest => simp

theorem arrivalAt_unknown (unknown : name ∉ abilityNames) :
    arrivalAt feat room made (slot :: slots) [position] = .unknown name := by
  rw [arrivalAt, Slot.latest?_cons _ _ there, Slot.latest?_nil]
  simp [Option.filter_some, unknown]

theorem arrivalAt_deep (known : name ∈ abilityNames) :
    arrivalAt feat 0 made (slot :: slots) [position] = .deep := by
  rw [arrivalAt, Slot.latest?_cons _ _ there, Slot.latest?_nil]
  simp [Option.filter_some, known]

end ArrivalAt

def arrivals (feat : Feat) (room : Nat) (made : List String) (slots : List Slot) : List Arrival :=
  (Slot.pathsFrom made slots).map (arrivalAt feat room made slots)

def arrivalsAfter (feat : Feat) (room : Nat) (made : List String) (slot : Slot)
    (slots : List Slot) (pick : String × Nat) : List Arrival :=
  (Slot.pathsFrom (made ++ [pick.1]) slots).map fun path =>
    arrivalAt feat room made (slot :: slots) (pick.2 :: path)

theorem arrivals_nil (feat : Feat) (room : Nat) (made : List String) :
    arrivals feat room made [] = [.terminal feat] := rfl

section Arrivals

variable {feat : Feat} {room : Nat} {made : List String} {slot : Slot} {slots : List Slot}

theorem arrivals_stuck (stuck : slot.legal made = []) :
    arrivals feat room made (slot :: slots) = [.terminal feat] := by
  have ends : Slot.isEnd made (slot :: slots) [] = true := by simp [Slot.isEnd, Slot.names, stuck]
  rw [arrivals, Slot.pathsFrom, stuck, List.flatMap_nil, List.map_singleton, arrivalAt_nil,
    if_pos ends]

theorem arrivals_pickable (pickable : slot.legal made ≠ []) :
    arrivals feat room made (slot :: slots) =
      .opening :: ((slot.legal made).map (arrivalsAfter feat room made slot slots)).flatten := by
  have goesOn : ¬ Slot.isEnd made (slot :: slots) [] = true := by
    simpa [Slot.isEnd, Slot.names] using pickable
  rw [arrivals, Slot.pathsFrom, List.map_cons, arrivalAt_nil, if_neg goesOn, List.map_flatMap,
    List.flatMap_def]
  simp only [List.map_map]
  rfl

theorem arrivalsAfter_eq_cons (pick : String × Nat) :
    ∃ others, arrivalsAfter feat room made slot slots pick =
      arrivalAt feat room made (slot :: slots) [pick.2] :: others := by
  cases slots with
  | nil => exact ⟨[], rfl⟩
  | cons next slots => exact ⟨_, rfl⟩

theorem arrivalsAfter_known {name : String} {position : Nat}
    (there : slot.candidates[position]? = some name) (known : name ∈ abilityNames) :
    arrivalsAfter feat (room + 1) made slot slots (name, position) =
      arrivals feat room (made ++ [name]) slots :=
  List.map_congr_left fun path _ => arrivalAt_cons feat room made slots there known path

end Arrivals

theorem isSome_after? (site : Site) (supplier : Vantage) (option : String × Expansion) :
    (site.after? supplier .ability option).isSome ↔ option.1 ∈ abilityNames := by
  rw [Site.after?, Option.isSome_map, EntryDescription.isSome_ofCandidate?]

theorem follow_grow (feat : Feat) (limit : Int) {site : Site} {made : List String}
    {items left : List AbilityChoice} (awaits : Expansion.Awaits id site.state made items left)
    (allowed : Nat) :
    (grow feat limit left.length site allowed).2 =
      Arrival.follow limit (arrivals feat site.room made (site.spot made left).slots) allowed := by
  -- As for the nodes of the tree: the site, the picks that were made and the queue all vary.
  induction left generalizing site made items allowed with
  | nil =>
    have bare : (site.spot made []).slots = [] := rfl
    rw [bare, arrivals_nil, Arrival.follow_terminal, List.length_nil, grow, growLeaf]
    cases count feat limit allowed <;> rfl
  | cons turn left ih =>
    cases found : Lookup.supplier? .ability turn.list site.vantage.stack with
    | none =>
      rw [Site.slots_missing found, arrivals_nil, Arrival.follow_terminal, List.length_cons, grow,
        Site.choice_missing awaits found]
    | some supply =>
      obtain ⟨supplier, candidates⟩ := supply
      have chosen := Site.choice_picks awaits found
      rw [Site.slots_found found, List.length_cons]
      by_cases stuck : Slot.legal made ⟨candidates, turn.max⟩ = []
      · rw [arrivals_stuck stuck, Arrival.follow_terminal, grow, chosen, stuck]
        rfl
      · rw [arrivals_pickable stuck, Arrival.follow, grow_of_picks chosen (by simpa using stuck)]
        refine Arrival.follow_growEach ?_ allowed
        rw [List.forall₂_map_left_iff, List.forall₂_map_right_iff, List.forall₂_same]
        rintro ⟨name, position⟩ picked allowed
        obtain ⟨there, _⟩ := (Slot.mem_legal ..).1 picked
        rw [growPick]
        cases after : site.after? supplier .ability (name, site.state.pick turn name) with
        | none =>
          have unknown : name ∉ abilityNames := by
            rw [← isSome_after? site supplier (name, site.state.pick turn name), after]
            exact Bool.false_ne_true
          obtain ⟨others, arrived⟩ := arrivalsAfter_eq_cons (name, position)
          rw [arrived, arrivalAt_unknown feat _ made _ there unknown]
          rfl
        | some next =>
          have known : name ∈ abilityNames := by
            rw [← isSome_after? site supplier (name, site.state.pick turn name), after]
            rfl
          cases space : site.room with
          | zero =>
            obtain ⟨others, arrived⟩ := arrivalsAfter_eq_cons (name, position)
            rw [arrived, arrivalAt_deep feat made _ there known]
            exact congrArg Prod.snd (if_pos rfl)
          | succ room =>
            rw [arrivalsAfter_known there known]
            obtain ⟨pending, awaited⟩ := Site.awaits_after awaits after
            have grown := ih awaited allowed
            rw [Spot.slots, Spot.stages, Site.spot, Site.vantage_after after,
              Site.room_after after, space] at grown
            exact grown

end Weaving

end FeatLoom
