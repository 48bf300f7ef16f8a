import FeatLoom.Proofs.Expansion.Turn
import Mathlib.Algebra.BigOperators.Ring.Finset

/-!
# The budget of a state

Every pick is paid for by the ability choice at the head of the queue. In a state that can be
reached, the choices that have been taken off the queue are paid for in full, the choice at the head
in part, and nothing else has been paid for. What an ability has been raised by is then bounded by
the choice that it was last picked for. All this holds whatever candidates are offered.
-/

namespace FeatLoom

structure Pick where
  choice : AbilityChoice
  name : String
  deriving DecidableEq

/-- Where names come from a list without repetition, their counts there add up to their number. -/
theorem sum_map_count {names candidates : List String} (distinct : candidates.Nodup)
    (offered : ∀ name ∈ names, name ∈ candidates) :
    (candidates.map fun name => names.count name).sum = names.length := by
  have inside (name : String) (member : name ∈ (names : Multiset String)) :
      name ∈ candidates.toFinset := List.mem_toFinset.2 (offered name member)
  calc (candidates.map fun name => names.count name).sum
      = ∑ name ∈ candidates.toFinset, names.count name := (List.sum_toFinset _ distinct).symm
    _ = names.length := by simpa using Multiset.sum_count_eq_card inside

theorem sum_values_tally (names : List String) : (tally names).values.sum = names.length := by
  have values : (tally names).values =
      (names.eraseDups.map fun name => names.count name).map Nat.cast := by
    simp [OrderedMap.values, tally]
  have total : (names.eraseDups.map fun name => names.count name).sum = names.length :=
    sum_map_count (OrderedMap.nodup_eraseDups names) fun _ member => List.mem_eraseDups.2 member
  rw [values, ← total]
  exact (Nat.cast_list_sum _).symm

namespace Expansion

def headChoice? (state : Expansion) : Option AbilityChoice :=
  match state.pending with
  | .ability choice :: _ => some choice
  | _ => none

theorem headChoice?_eq_some_iff {state : Expansion} {choice : AbilityChoice} :
    state.headChoice? = some choice ↔ ∃ rest, state.pending = .ability choice :: rest := by
  unfold headChoice?
  split
  · next head rest pending => simp [pending]
  · next other => simpa using fun rest pending => other choice rest pending

theorem expand_of_head {state : Expansion} {choice : AbilityChoice}
    (head : state.headChoice? = some choice) (candidates : List String) :
    state.expand candidates = .ok (state.legalPicks choice candidates) := by
  obtain ⟨rest, pending⟩ := headChoice?_eq_some_iff.1 head
  rw [expand, pending]

theorem mem_expand {state next : Expansion} {candidates : List String} {name : String}
    {children : List (String × Expansion)} (expanded : state.expand candidates = .ok children)
    (picked : (name, next) ∈ children) : ∃ choice, state.headChoice? = some choice ∧
      name ∈ candidates ∧ state.timesRaised name < choice.max ∧ next = state.pick choice name := by
  unfold expand at expanded
  split at expanded
  · cases expanded
    cases picked
  · next choice rest pending =>
    cases expanded
    obtain ⟨_, legal, same⟩ := List.mem_map.1 picked
    obtain ⟨rfl, rfl⟩ := Prod.mk.inj same
    obtain ⟨offered, few⟩ := List.mem_filter.1 legal
    exact ⟨choice, headChoice?_eq_some_iff.2 ⟨rest, pending⟩, offered, of_decide_eq_true few, rfl⟩
  · cases expanded

/-- The states that are reached from the start by expanding, where each step is offered candidates
of some kind. They come with the picks that led there, the latest one last. -/
inductive Reaches (offers : List String → Prop) (selectors : List Selector) :
    List Pick → Expansion → Prop
  | start : Reaches offers selectors [] (ofSelectors selectors)
  | pick {made : List Pick} {state next : Expansion} {choice : AbilityChoice} {name : String}
      {candidates : List String} {children : List (String × Expansion)}
      (reached : Reaches offers selectors made state)
      (head : state.headChoice? = some choice) (offered : offers candidates)
      (expanded : state.expand candidates = .ok children) (picked : (name, next) ∈ children) :
      Reaches offers selectors (made ++ [⟨choice, name⟩]) next

theorem Reaches.extend {offers : List String → Prop} {selectors : List Selector}
    {made : List Pick} {state : Expansion} {choice : AbilityChoice}
    (reached : Reaches offers selectors made state) (head : state.headChoice? = some choice)
    (candidates : List String) (offered : offers candidates) (name : String)
    (member : name ∈ candidates) (few : state.timesRaised name < choice.max) :
    Reaches offers selectors (made ++ [⟨choice, name⟩]) (state.pick choice name) := by
  refine reached.pick head offered (expand_of_head head candidates) ?_
  exact List.mem_map_of_mem (List.mem_filter.2 ⟨member, decide_eq_true few⟩)

/-! ## The ledger -/

/-- The picks made so far as they are booked: those for choices that are off the queue, and those
for the head. -/
structure Ledger (selectors : List Selector) (popped : List AbilityChoice)
    (settled current : List Pick) (state : Expansion) : Prop where
  queue : selectors.filter asksForPicks = popped.map Selector.ability ++ state.pending
  paid : settled.map Pick.choice = turns id popped
  for_head : ∀ pick ∈ current, state.headChoice? = some pick.choice
  picks : state.picks = current.map Pick.name
  underway : ∀ choice ∈ state.headChoice?, current.length < choice.count
  raised : state.raised = tally ((settled ++ current).map Pick.name)

theorem count_pos_of_queue {selectors pending : List Selector} {popped : List AbilityChoice}
    (queue : selectors.filter asksForPicks = popped.map Selector.ability ++ pending)
    {choice : AbilityChoice} (member : .ability choice ∈ pending) : 0 < choice.count := by
  have asking : Selector.ability choice ∈ selectors.filter asksForPicks := by
    rw [queue]
    exact List.mem_append_right _ member
  exact Nat.pos_of_ne_zero ((asksForPicks_ability choice).1 (List.mem_filter.1 asking).2)

theorem mem_of_mem_turns {choices : List AbilityChoice} {choice : AbilityChoice}
    (turn : choice ∈ turns id choices) : choice ∈ choices := by
  obtain ⟨other, member, same⟩ := List.mem_flatMap.1 turn
  rwa [List.eq_of_mem_replicate same]

theorem ledger_ofSelectors (selectors : List Selector) :
    Ledger selectors [] [] [] (ofSelectors selectors) where
  queue := rfl
  paid := rfl
  for_head := by simp
  picks := rfl
  underway := by
    intro choice head
    obtain ⟨rest, pending⟩ := headChoice?_eq_some_iff.1 head
    have queue : selectors.filter asksForPicks =
        [].map Selector.ability ++ .ability choice :: rest := pending
    exact count_pos_of_queue queue List.mem_cons_self
  raised := rfl

namespace Ledger

variable {selectors : List Selector} {popped : List AbilityChoice} {settled current : List Pick}
  {state : Expansion} {choice : AbilityChoice}

theorem timesRaised_eq (ledger : Ledger selectors popped settled current state) (name : String) :
    state.timesRaised name = (((settled ++ current).map Pick.name).count name : Int) := by
  rw [timesRaised, ledger.raised, get?_tally]
  by_cases picked : name ∈ (settled ++ current).map Pick.name
  · rw [if_pos picked, Option.getD_some]
  · rw [if_neg picked, List.count_eq_zero_of_not_mem picked]
    rfl

theorem length_settled (ledger : Ledger selectors popped settled current state) :
    settled.length = (popped.map AbilityChoice.count).sum := by
  rw [← length_turns, ← ledger.paid, List.length_map]

theorem current_eq_nil (ledger : Ledger selectors popped settled current state)
    (headless : state.headChoice? = none) : current = [] := by
  apply List.eq_nil_iff_forall_not_mem.2
  intro pick member
  have head := ledger.for_head pick member
  rw [headless] at head
  cases head

theorem pick (ledger : Ledger selectors popped settled current state)
    (head : state.headChoice? = some choice) (name : String) :
    ∃ popped' settled' current', settled' ++ current' = settled ++ current ++ [⟨choice, name⟩] ∧
      Ledger selectors popped' settled' current' (state.pick choice name) := by
  obtain ⟨rest, pending⟩ := headChoice?_eq_some_iff.1 head
  have few : current.length < choice.count := ledger.underway choice head
  have raised : (state.raised.alter name fun present => present.getD 0 + 1) =
      tally ((settled ++ current ++ [Pick.mk choice name]).map Pick.name) := by
    have names : (settled ++ current ++ [Pick.mk choice name]).map Pick.name =
        (settled ++ current).map Pick.name ++ [name] := List.map_append
    rw [ledger.raised, names, tally_concat]
  have length : state.picks.length = current.length := by rw [ledger.picks, List.length_map]
  by_cases done : state.completes choice
  -- The pick settles all picks for the head; a choice that comes next has none yet.
  · have last : choice.count ≤ current.length + 1 := by
      rw [← length]
      exact of_decide_eq_true done
    have own : current.map Pick.choice = List.replicate current.length choice := by
      rw [List.eq_replicate_iff, List.length_map]
      refine ⟨rfl, fun other member => ?_⟩
      obtain ⟨pick, inCurrent, rfl⟩ := List.mem_map.1 member
      exact Option.some.inj ((ledger.for_head pick inCurrent).symm.trans head)
    have queue : selectors.filter asksForPicks =
        (popped ++ [choice]).map Selector.ability ++ rest := by
      rw [ledger.queue, pending, List.map_append, List.append_assoc]
      rfl
    have full : choice.count = current.length + 1 := Nat.le_antisymm last few
    refine ⟨popped ++ [choice], settled ++ current ++ [⟨choice, name⟩], [], List.append_nil _, ?_⟩
    rw [Expansion.pick, if_pos done]
    refine ⟨?_, ?_, by simp, rfl, ?_, ?_⟩
    · rw [queue, raise, advance, pending]
      rfl
    · calc (settled ++ current ++ [Pick.mk choice name]).map Pick.choice
          = turns id popped ++ List.replicate (current.length + 1) choice := by
            rw [List.map_append, List.map_append, ledger.paid, own, List.replicate_succ',
              List.append_assoc]
            rfl
        _ = turns id (popped ++ [choice]) := by
            rw [← full, turns, turns, List.flatMap_append, List.flatMap_singleton]
            rfl
    · intro other first
      obtain ⟨others, following⟩ := headChoice?_eq_some_iff.1 first
      have inRest : Selector.ability other ∈ rest := by
        have same : rest = .ability other :: others := by
          rw [raise, advance, pending] at following
          exact following
        rw [same]
        exact List.mem_cons_self
      exact count_pos_of_queue queue inRest
    · rw [List.append_nil]
      exact raised
  · have more : current.length + 1 < choice.count := by
      rw [← length]
      simpa [completes] using done
    refine ⟨popped, settled, current ++ [⟨choice, name⟩], (List.append_assoc ..).symm, ?_⟩
    rw [Expansion.pick, if_neg done]
    refine ⟨ledger.queue, ledger.paid, ?_, ?_, ?_, ?_⟩
    · intro pick member
      rcases List.mem_append.1 member with earlier | new
      · exact ledger.for_head pick earlier
      · rw [List.mem_singleton.1 new]
        exact head
    · rw [raise, List.map_append, ← ledger.picks]
      rfl
    · intro other first
      obtain rfl : choice = other := Option.some.inj (head.symm.trans first)
      rw [List.length_append, List.length_singleton]
      exact more
    · rw [← List.append_assoc]
      exact raised

end Ledger

/-! ## Runs -/

namespace Reaches

variable {offers : List String → Prop} {selectors : List Selector} {made : List Pick}
  {state : Expansion} {pick : Pick}

theorem ledger (reached : Reaches offers selectors made state) :
    ∃ popped settled current, settled ++ current = made ∧
      Ledger selectors popped settled current state := by
  induction reached with
  | start => exact ⟨[], [], [], rfl, ledger_ofSelectors selectors⟩
  | @pick _ _ _ choice name _ _ _ head _ expanded picked ih =>
    obtain ⟨popped, settled, current, rfl, booked⟩ := ih
    obtain ⟨other, first, _, _, rfl⟩ := mem_expand expanded picked
    obtain rfl : choice = other := Option.some.inj (head.symm.trans first)
    obtain ⟨popped', settled', current', same, next⟩ := booked.pick head name
    exact ⟨popped', settled', current', same, next⟩

theorem timesRaised_eq (reached : Reaches offers selectors made state) (name : String) :
    state.timesRaised name = ((made.map Pick.name).count name : Int) := by
  obtain ⟨popped, settled, current, rfl, booked⟩ := reached.ledger
  exact booked.timesRaised_eq name

theorem of_concat {next : Expansion} (reached : Reaches offers selectors (made ++ [pick]) next) :
    ∃ state candidates, Reaches offers selectors made state ∧
      state.headChoice? = some pick.choice ∧ offers candidates ∧ pick.name ∈ candidates ∧
      (made.map Pick.name).count pick.name < pick.choice.max ∧
      next = state.pick pick.choice pick.name := by
  generalize all : made ++ [pick] = picks at reached
  cases reached with
  | start => exact absurd all (List.concat_ne_nil pick made)
  | @pick _ state _ choice name candidates _ before head offered expanded picked =>
    obtain ⟨rfl, last⟩ := List.append_inj' all rfl
    obtain rfl := List.singleton_inj.1 last
    obtain ⟨other, first, member, few, rfl⟩ := mem_expand expanded picked
    obtain rfl : choice = other := Option.some.inj (head.symm.trans first)
    rw [before.timesRaised_eq] at few
    exact ⟨state, candidates, before, head, offered, member, Int.ofNat_lt.1 few, rfl⟩

theorem of_append {later : List Pick} (reached : Reaches offers selectors (made ++ later) state) :
    ∃ earlier, Reaches offers selectors made earlier := by
  induction later using List.reverseRecOn generalizing state with
  | nil =>
    rw [List.append_nil] at reached
    exact ⟨state, reached⟩
  | append_singleton later latest ih =>
    rw [← List.append_assoc] at reached
    obtain ⟨_, _, before, _⟩ := reached.of_concat
    exact ih before

theorem exists_offered (reached : Reaches offers selectors made state) (member : pick ∈ made) :
    ∃ candidates, offers candidates ∧ pick.name ∈ candidates := by
  obtain ⟨first, later, rfl⟩ := List.append_of_mem member
  rw [← List.singleton_append, ← List.append_assoc] at reached
  obtain ⟨_, before⟩ := reached.of_append
  obtain ⟨_, candidates, _, _, offered, inside, _⟩ := before.of_concat
  exact ⟨candidates, offered, inside⟩

/-- The latest pick is within the cap of the choice that it was made for. -/
theorem count_latest_le (reached : Reaches offers selectors (made ++ [pick]) state) :
    ((made ++ [pick]).map Pick.name).count pick.name ≤ pick.choice.max := by
  obtain ⟨_, _, _, _, _, _, few, _⟩ := reached.of_concat
  rw [List.map_append, List.count_append, List.map_singleton, List.count_singleton_self]
  exact few

/-- Every name is within the cap of the choice that it was last picked for. -/
theorem exists_count_le (reached : Reaches offers selectors made state) (member : pick ∈ made) :
    ∃ last ∈ made, last.name = pick.name ∧
      (made.map Pick.name).count pick.name ≤ last.choice.max := by
  -- A later pick of another name changes neither the count nor the choice.
  induction made using List.reverseRecOn generalizing state with
  | nil => cases member
  | append_singleton earlier latest ih =>
    by_cases same : latest.name = pick.name
    · refine ⟨latest, List.mem_concat_self, same, ?_⟩
      rw [← same]
      exact reached.count_latest_le
    · obtain ⟨_, _, before, _⟩ := reached.of_concat
      have inEarlier : pick ∈ earlier := by
        rcases List.mem_append.1 member with inside | new
        · exact inside
        · exact absurd (congrArg Pick.name (List.mem_singleton.1 new)).symm same
      obtain ⟨last, inside, named, within⟩ := ih before inEarlier
      refine ⟨last, List.mem_append_left _ inside, named, ?_⟩
      rw [List.map_append, List.count_append, List.map_singleton, List.count_singleton]
      simpa [same] using within

end Reaches

/-! ## The budget -/

def largestMax (choices : List AbilityChoice) : Nat := (choices.map AbilityChoice.max).max?.getD 0

theorem max_le_largestMax {choices : List AbilityChoice} {choice : AbilityChoice}
    (member : choice ∈ choices) : choice.max ≤ largestMax choices :=
  List.le_max?_getD_of_mem (List.mem_map_of_mem member)

/-- A state is within its budget after the picks made, the choices `popped` being off the queue. -/
structure IsWithinBudget (selectors : List Selector) (made : List Pick)
    (popped : List AbilityChoice) (state : Expansion) : Prop where
  queue : selectors.filter asksForPicks = popped.map Selector.ability ++ state.pending
  underway : ∀ choice ∈ state.headChoice?, state.picks.length < choice.count
  idle : state.headChoice? = none → state.picks = []
  total : state.raised.values.sum =
    (((popped.map AbilityChoice.count).sum + state.picks.length : Nat) : Int)
  recent : state.picks <:+ made.map Pick.name
  spent : ∀ entry ∈ state.raised.entries,
    1 ≤ entry.2 ∧ entry.2 ≤ (largestMax (popped ++ state.headChoice?.toList) : Int)
  latest : ∀ pick ∈ made.getLast?, state.timesRaised pick.name ≤ (pick.choice.max : Int)

theorem Ledger.choice_mem {selectors : List Selector} {popped : List AbilityChoice}
    {settled current : List Pick} {state : Expansion}
    (ledger : Ledger selectors popped settled current state) {pick : Pick}
    (member : pick ∈ settled ++ current) :
    pick.choice ∈ popped ++ state.headChoice?.toList := by
  rcases List.mem_append.1 member with inSettled | inCurrent
  · have turn : pick.choice ∈ turns id popped := by
      rw [← ledger.paid]
      exact List.mem_map_of_mem inSettled
    exact List.mem_append_left _ (mem_of_mem_turns turn)
  · rw [ledger.for_head pick inCurrent]
    exact List.mem_append_right _ (List.mem_singleton_self _)

/-- Every state that is reached is within its budget, whatever candidates each step is offered. -/
theorem reaches_isWithinBudget (selectors : List Selector) (made : List Pick) (state : Expansion)
    (reached : Reaches (fun _ => True) selectors made state) :
    ∃ popped, IsWithinBudget selectors made popped state := by
  obtain ⟨popped, settled, current, rfl, ledger⟩ := reached.ledger
  have held : state.picks.length = current.length := by rw [ledger.picks, List.length_map]
  refine ⟨popped, ledger.queue, ?_, ?_, ?_, ?_, ?_, ?_⟩
  · rw [held]
    exact ledger.underway
  · intro headless
    rw [ledger.picks, ledger.current_eq_nil headless]
    rfl
  · rw [ledger.raised, sum_values_tally, List.length_map, List.length_append,
      ledger.length_settled, held]
  · rw [ledger.picks, List.map_append]
    exact List.suffix_append ..
  · intro entry member
    rw [ledger.raised] at member
    obtain ⟨name, inNames, rfl⟩ := List.mem_map.1 member
    rw [List.mem_eraseDups] at inNames
    obtain ⟨pick, inMade, rfl⟩ := List.mem_map.1 inNames
    obtain ⟨last, inside, _, within⟩ := reached.exists_count_le inMade
    constructor
    · exact Int.ofNat_le.2 (List.count_pos_iff.2 inNames)
    · exact Int.ofNat_le.2 (within.trans (max_le_largestMax (ledger.choice_mem inside)))
  · intro pick last
    obtain ⟨earlier, same⟩ := List.getLast?_eq_some_iff.1 last
    rw [reached.timesRaised_eq, same]
    rw [same] at reached
    exact Int.ofNat_le.2 reached.count_latest_le

/-- An ability is raised twice for one choice and stays above the cap of the next one. -/
theorem reaches_isWithinBudget_three_picks :
    let twice : AbilityChoice := ⟨Guid.nil, 2, 2, ""⟩
    let idle : AbilityChoice := ⟨Guid.nil, 0, 3, ""⟩
    let once : AbilityChoice := ⟨Guid.nil, 1, 1, ""⟩
    let selectors : List Selector := [.ability twice, .ability idle, .ability once, .spell]
    let made : List Pick := [⟨twice, "Strength"⟩, ⟨twice, "Strength"⟩, ⟨once, "Wisdom"⟩]
    ∃ state, Reaches (fun _ => True) selectors made state ∧
      state.raised.entries = [("Strength", 2), ("Wisdom", 1)] ∧
      ∃ popped, IsWithinBudget selectors made popped state := by
  intro twice idle once selectors made
  have fresh : Reaches (fun _ => True) selectors [] _ := Reaches.start
  have first := fresh.extend rfl ["Charisma", "Strength", "Strength"] trivial "Strength"
    (by decide) (by decide)
  have second := first.extend rfl ["Strength"] trivial "Strength" (by decide) (by decide)
  have third := second.extend rfl ["Strength", "Wisdom"] trivial "Wisdom" (by decide) (by decide)
  exact ⟨_, third, by decide, reaches_isWithinBudget selectors made _ third⟩

end Expansion

end FeatLoom
