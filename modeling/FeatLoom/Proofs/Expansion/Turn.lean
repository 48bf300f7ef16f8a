import FeatLoom.Expansion
import FeatLoom.Proofs.OrderedMap
import Mathlib.Algebra.Ring.Nat

/-!
# Turns

A choice of `count` abilities takes as many turns, one for each pick. A state of the expansion
awaits the turns that its queue and the picks for its head leave open, and what has been raised by
then is the tally of all picks that were made. A legal pick takes the first turn off, so a state is
complete exactly when no turn is left. Choices may carry more than the program looks at, such as the
candidates that they are made from.
-/

namespace FeatLoom

def tally (names : List String) : OrderedMap String Int where
  entries := names.eraseDups.map fun name => (name, (names.count name : Int))
  nodup := by simpa [Function.comp_def] using OrderedMap.nodup_eraseDups names

theorem keys_tally (names : List String) : (tally names).keys = names.eraseDups := by
  simp [OrderedMap.keys, tally, Function.comp_def]

theorem get?_tally (names : List String) (name : String) :
    (tally names).get? name = if name ∈ names then some (names.count name : Int) else none := by
  apply Option.ext
  intro times
  rw [OrderedMap.get?_eq_some_iff]
  by_cases picked : name ∈ names
  · simp [tally, picked, eq_comm]
  · simp [tally, picked]

theorem tally_concat (names : List String) (name : String) :
    tally (names ++ [name]) = (tally names).alter name fun present => present.getD 0 + 1 := by
  apply OrderedMap.eq_of_keys_of_get?
  · rw [OrderedMap.keys_alter, keys_tally, keys_tally, OrderedMap.eraseDups_concat]
    simp only [List.mem_eraseDups]
  · intro other
    rw [OrderedMap.get?_alter, get?_tally, get?_tally, get?_tally]
    by_cases same : name = other
    · subst same
      by_cases picked : name ∈ names
      · simp [picked]
      · simp [picked, List.count_eq_zero_of_not_mem picked]
    · have different : ¬ other = name := fun h => same h.symm
      simp [same, different]

namespace Expansion

section Turns

variable {α : Type} (choiceOf : α → AbilityChoice)

def turns (items : List α) : List α :=
  items.flatMap fun item => List.replicate (choiceOf item).count item

theorem length_turns (choices : List AbilityChoice) :
    (turns id choices).length = (choices.map AbilityChoice.count).sum := by
  simp [turns]

/-- The state after the picks of some names, with some items pending and some turns left. -/
structure Awaits (state : Expansion) (made : List String) (items left : List α) : Prop where
  pending : state.pending = items.map fun item => Selector.ability (choiceOf item)
  raised : state.raised = tally made
  asking : ∀ item ∈ items, (choiceOf item).count ≠ 0
  left_eq : left = (turns choiceOf items).drop state.picks.length
  underway : ∀ item ∈ items.head?, state.picks.length < (choiceOf item).count
  settled : items = [] → state.picks = []

variable {choiceOf}

theorem turns_cons (item : α) (items : List α) :
    turns choiceOf (item :: items) =
      List.replicate (choiceOf item).count item ++ turns choiceOf items :=
  List.flatMap_cons

theorem asksForPicks_ability (choice : AbilityChoice) :
    asksForPicks (.ability choice) = true ↔ choice.count ≠ 0 := by
  simp [asksForPicks]

theorem turns_filter (items : List α) :
    turns choiceOf (items.filter fun item => asksForPicks (.ability (choiceOf item))) =
      turns choiceOf items := by
  induction items with
  | nil => rfl
  | cons item items ih =>
    rw [List.filter_cons]
    split
    · rw [turns_cons, turns_cons, ih]
    · next idle =>
      rw [asksForPicks_ability, not_not] at idle
      rw [turns_cons, idle, List.replicate_zero, List.nil_append, ih]

theorem awaits_ofSelectors (items : List α) :
    Awaits choiceOf (ofSelectors (items.map fun item => Selector.ability (choiceOf item))) []
      (items.filter fun item => asksForPicks (.ability (choiceOf item)))
      (turns choiceOf items) where
  pending := List.filter_map
  raised := rfl
  asking := fun item member => (asksForPicks_ability _).1 (List.mem_filter.1 member).2
  left_eq := (turns_filter items).symm
  underway := by
    intro item first
    have member := List.mem_of_mem_head? first
    exact Nat.pos_of_ne_zero ((asksForPicks_ability _).1 (List.mem_filter.1 member).2)
  settled := fun _ => rfl

namespace Awaits

variable {state : Expansion} {made : List String} {items left : List α} {turn : α}

theorem left_cons {item : α} {rest : List α}
    (awaits : Awaits choiceOf state made (item :: rest) left) :
    left = item :: (List.replicate ((choiceOf item).count - (state.picks.length + 1)) item ++
      turns choiceOf rest) := by
  have few := awaits.underway item rfl
  have more : (choiceOf item).count - state.picks.length =
      (choiceOf item).count - (state.picks.length + 1) + 1 := by omega
  rw [awaits.left_eq, turns_cons,
    List.drop_append_of_le_length (by simpa using Nat.le_of_lt few), List.drop_replicate, more,
    List.replicate_succ, List.cons_append]

/-- The turn that comes next belongs to the head. -/
theorem items_eq (awaits : Awaits choiceOf state made items (turn :: left)) :
    ∃ rest, items = turn :: rest := by
  cases items with
  | nil => simpa [turns] using awaits.left_eq
  | cons item rest =>
    obtain ⟨rfl, _⟩ := List.cons.inj awaits.left_cons
    exact ⟨rest, rfl⟩

theorem eq_of_nil (awaits : Awaits choiceOf state made items []) :
    state = ⟨[], tally made, []⟩ := by
  cases items with
  | nil =>
    obtain ⟨pending, raised, picks⟩ := state
    have none := awaits.pending
    have all := awaits.raised
    have settled := awaits.settled rfl
    simp_all
  | cons item rest => exact absurd awaits.left_cons (List.cons_ne_nil _ _).symm

theorem isComplete_cons (awaits : Awaits choiceOf state made items (turn :: left)) :
    state.isComplete = false := by
  obtain ⟨rest, rfl⟩ := awaits.items_eq
  rw [isComplete, awaits.pending]
  rfl

theorem expand_eq (awaits : Awaits choiceOf state made items (turn :: left))
    (candidates : List String) : state.expand candidates =
      .ok ((candidates.filter fun name => made.count name < (choiceOf turn).max).map fun name =>
        (name, state.pick (choiceOf turn) name)) := by
  obtain ⟨rest, rfl⟩ := awaits.items_eq
  have test : state.isLegal (choiceOf turn) =
      fun name => decide (made.count name < (choiceOf turn).max) := by
    funext name
    rw [isLegal, timesRaised, awaits.raised, get?_tally]
    by_cases picked : name ∈ made
    · simp [picked]
    · simp [picked, List.count_eq_zero_of_not_mem picked]
  unfold expand
  rw [awaits.pending, List.map_cons]
  simp only [legalPicks, test]

theorem pick (awaits : Awaits choiceOf state made items (turn :: left)) (name : String) :
    ∃ pending, pending <:+ items ∧
      Awaits choiceOf (state.pick (choiceOf turn) name) (made ++ [name]) pending left := by
  obtain ⟨rest, rfl⟩ := awaits.items_eq
  have raised : (state.raised.alter name fun present => present.getD 0 + 1) =
      tally (made ++ [name]) := by rw [awaits.raised, tally_concat]
  have left_eq := (List.cons.inj awaits.left_cons).2
  by_cases done : state.completes (choiceOf turn)
  · have last : (choiceOf turn).count ≤ state.picks.length + 1 := by
      simpa [completes] using done
    refine ⟨rest, List.suffix_cons turn rest, ?_⟩
    rw [Expansion.pick, if_pos done]
    refine ⟨?_, raised, fun item member => awaits.asking item (List.mem_cons_of_mem _ member),
      ?_, ?_, fun _ => rfl⟩
    · rw [Expansion.raise, advance, awaits.pending]
      rfl
    · rw [left_eq, Nat.sub_eq_zero_of_le last]
      rfl
    · intro item first
      have member := List.mem_cons_of_mem turn (List.mem_of_mem_head? first)
      exact Nat.pos_of_ne_zero (awaits.asking item member)
  · have more : state.picks.length + 1 < (choiceOf turn).count := by
      simpa [completes] using done
    refine ⟨turn :: rest, List.suffix_rfl, ?_⟩
    rw [Expansion.pick, if_neg done]
    refine ⟨awaits.pending, raised, awaits.asking, ?_, ?_, fun none => absurd none (by simp)⟩
    · simp only [Expansion.raise, List.length_append, List.length_singleton]
      rw [turns_cons, List.drop_append_of_le_length (by simpa using Nat.le_of_lt more),
        List.drop_replicate, left_eq]
    · intro item first
      obtain rfl : turn = item := by simpa using first
      simpa [Expansion.raise] using more

theorem picksLeft_eq (awaits : Awaits choiceOf state made items left) :
    state.picksLeft = left.length := by
  induction left generalizing state made items with
  | nil =>
    rw [awaits.eq_of_nil]
    rfl
  | cons turn left ih =>
    obtain ⟨rest, rfl⟩ := awaits.items_eq
    obtain ⟨_, _, next⟩ := awaits.pick ""
    rw [← picksLeft_pick state (choiceOf turn) _ "" awaits.pending, ih next, List.length_cons]

end Awaits

end Turns

end Expansion

end FeatLoom
