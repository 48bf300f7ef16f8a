import FeatLoom.Proofs.Expansion.Budget
import Mathlib.Algebra.Order.BigOperators.Group.List
import Mathlib.Algebra.Order.Group.Nat

/-!
# Feasible chains

A chain of choices is made over one list of candidates. Up to any choice of the chain, the
candidates below its cap leave room for as many picks as there are candidates times the cap. A
chain with room for all that is asked for up to each choice never gets stuck. A chain that lacks
the room somewhere never completes, as long as no cap is smaller than an earlier one.
-/

namespace FeatLoom

namespace Expansion

/-- The picks that a chain asks for up to the choice at a position. -/
def asked (choices : List AbilityChoice) (position : Nat) : Nat :=
  ((choices.take (position + 1)).map AbilityChoice.count).sum

/-- So many names have room for what is asked for up to each choice. -/
def HasRoom (names : Nat) (choices : List AbilityChoice) : Prop :=
  ∀ (position : Nat) (inside : position < choices.length),
    asked choices position ≤ names * choices[position].max

def CapsRise (choices : List AbilityChoice) : Prop :=
  choices.Pairwise fun first second => first.max ≤ second.max

instance (names : Nat) (choices : List AbilityChoice) : Decidable (HasRoom names choices) :=
  Nat.decidableBallLT choices.length _

instance (choices : List AbilityChoice) : Decidable (CapsRise choices) :=
  inferInstanceAs (Decidable (choices.Pairwise _))

theorem CapsRise.max_le {choices : List AbilityChoice} (rise : CapsRise choices) {position : Nat}
    (inside : position < choices.length) {other : AbilityChoice}
    (earlier : other ∈ choices.take (position + 1)) : other.max ≤ choices[position].max := by
  obtain ⟨before, bound, rfl⟩ := List.mem_take_iff_getElem.1 earlier
  rcases Nat.lt_or_eq_of_le (Nat.le_of_lt_succ (Nat.lt_of_lt_of_le bound (Nat.min_le_left ..)))
    with less | rfl
  · exact List.pairwise_iff_getElem.1 rise _ _ _ inside less
  · exact Nat.le_refl _

/-- What has been booked for a chain, and what is left of it. -/
theorem Ledger.rest_of_chain {choices popped : List AbilityChoice} {settled current : List Pick}
    {state : Expansion} (asking : ∀ choice ∈ choices, 1 ≤ choice.count)
    (ledger : Ledger (choices.map Selector.ability) popped settled current state) :
    ∃ rest, choices = popped ++ rest ∧ state.pending = rest.map Selector.ability := by
  have all : (choices.map Selector.ability).filter asksForPicks = choices.map Selector.ability := by
    rw [List.filter_eq_self]
    intro selector member
    obtain ⟨choice, inChoices, rfl⟩ := List.mem_map.1 member
    exact (asksForPicks_ability choice).2 (Nat.ne_of_gt (asking choice inChoices))
  have queue := ledger.queue
  rw [all] at queue
  obtain ⟨first, rest, split, same, pending⟩ := List.map_eq_append_iff.1 queue
  have injective : Function.Injective Selector.ability := fun _ _ => Selector.ability.inj
  rw [List.map_injective_iff.2 injective same] at split
  exact ⟨rest, split, pending.symm⟩

abbrev ReachesOver (candidates : List String) (choices : List AbilityChoice) :
    List Pick → Expansion → Prop :=
  Reaches (· = candidates) (choices.map Selector.ability)

section Chain

variable {choices : List AbilityChoice} {candidates : List String} {made : List Pick}
  {state : Expansion}

theorem Reaches.sum_count {selectors : List Selector} (distinct : candidates.Nodup)
    (reached : Reaches (· = candidates) selectors made state) :
    (candidates.map fun name => (made.map Pick.name).count name).sum = made.length := by
  rw [sum_map_count distinct, List.length_map]
  intro name member
  obtain ⟨pick, inMade, rfl⟩ := List.mem_map.1 member
  obtain ⟨_, rfl, inside⟩ := reached.exists_offered inMade
  exact inside

theorem Reaches.expand_ne_nil (distinct : candidates.Nodup)
    (asking : ∀ choice ∈ choices, 1 ≤ choice.count) (room : HasRoom candidates.length choices)
    (reached : ReachesOver candidates choices made state)
    (incomplete : state.isComplete = false) :
    ∃ children, state.expand candidates = .ok children ∧ children ≠ [] := by
  obtain ⟨popped, settled, current, rfl, ledger⟩ := reached.ledger
  obtain ⟨rest, rfl, pending⟩ := ledger.rest_of_chain asking
  cases rest with
  | nil =>
    rw [isComplete, pending] at incomplete
    cases incomplete
  | cons choice rest =>
    have head : state.headChoice? = some choice := headChoice?_eq_some_iff.2 ⟨_, pending⟩
    refine ⟨_, expand_of_head head candidates, fun none => ?_⟩
    -- With all candidates at the cap of the head, more picks would have been made than it asks for.
    have few : current.length < choice.count := ledger.underway choice head
    have bill : asked (popped ++ choice :: rest) popped.length =
        (popped.map AbilityChoice.count).sum + choice.count := by
      rw [asked, List.take_length_add_append]
      simp
    have roomy : asked (popped ++ choice :: rest) popped.length ≤
        candidates.length * choice.max := by
      simpa using room popped.length (by simp)
    have capped : ∀ times ∈ candidates.map fun name =>
        ((settled ++ current).map Pick.name).count name, choice.max ≤ times := by
      intro times member
      obtain ⟨name, inside, rfl⟩ := List.mem_map.1 member
      have idle := List.filter_eq_nil_iff.1 (List.map_eq_nil_iff.1 none) name inside
      rw [isLegal, reached.timesRaised_eq, decide_eq_true_eq, not_lt] at idle
      exact Int.ofNat_le.1 idle
    have enough : candidates.length * choice.max ≤ (settled ++ current).length := by
      rw [← reached.sum_count distinct]
      simpa using List.card_nsmul_le_sum _ _ capped
    rw [List.length_append, ledger.length_settled] at enough
    omega

theorem Reaches.map_choice_of_complete (asking : ∀ choice ∈ choices, 1 ≤ choice.count)
    {offers : List String → Prop}
    (reached : Reaches offers (choices.map Selector.ability) made state)
    (complete : state.isComplete) : made.map Pick.choice = turns id choices := by
  obtain ⟨popped, settled, current, rfl, ledger⟩ := reached.ledger
  obtain ⟨rest, rfl, pending⟩ := ledger.rest_of_chain asking
  have empty : state.pending = [] := List.isEmpty_iff.1 complete
  have done : rest = [] := List.map_eq_nil_iff.1 (pending.symm.trans empty)
  have headless : state.headChoice? = none := by rw [headChoice?, empty]
  rw [ledger.current_eq_nil headless, done, List.append_nil, List.append_nil, ledger.paid]

/-- Where caps rise, the picks for the choices up to one stay within its cap, so a complete state
shows that there was room for them. -/
theorem Reaches.hasRoom_of_complete (distinct : candidates.Nodup)
    (asking : ∀ choice ∈ choices, 1 ≤ choice.count) (rise : CapsRise choices)
    (reached : ReachesOver candidates choices made state)
    (complete : state.isComplete) : HasRoom candidates.length choices := by
  intro position inside
  have all : made.map Pick.choice =
      turns id (choices.take (position + 1)) ++ turns id (choices.drop (position + 1)) := by
    rw [reached.map_choice_of_complete asking complete]
    simp only [turns, ← List.flatMap_append, List.take_append_drop]
  obtain ⟨first, later, rfl, early, _⟩ := List.map_eq_append_iff.1 all
  obtain ⟨_, before⟩ := reached.of_append
  have made : asked choices position = first.length := by
    rw [asked, ← length_turns, ← early, List.length_map]
  have capped : ∀ times ∈ candidates.map fun name => (first.map Pick.name).count name,
      times ≤ choices[position].max := by
    intro times member
    obtain ⟨name, _, rfl⟩ := List.mem_map.1 member
    by_cases picked : name ∈ first.map Pick.name
    · obtain ⟨pick, inFirst, rfl⟩ := List.mem_map.1 picked
      obtain ⟨last, inFirst', _, within⟩ := before.exists_count_le inFirst
      have turn : last.choice ∈ turns id (choices.take (position + 1)) := by
        rw [← early]
        exact List.mem_map_of_mem inFirst'
      exact within.trans (rise.max_le inside (mem_of_mem_turns turn))
    · rw [List.count_eq_zero_of_not_mem picked]
      exact Nat.zero_le _
  rw [made, ← before.sum_count distinct]
  simpa using List.sum_le_card_nsmul _ _ capped

/-- Every state leads to one that has no further pick. -/
theorem Reaches.exists_stuck (asking : ∀ choice ∈ choices, 1 ≤ choice.count)
    (reached : ReachesOver candidates choices made state) : ∃ more final,
      ReachesOver candidates choices (made ++ more) final ∧ final.expand candidates = .ok [] := by
  -- A child has one pick fewer left than its parent.
  induction left : state.picksLeft generalizing made state with
  | zero =>
    have empty := (picksLeft_eq_zero_iff state).1 left
    refine ⟨[], state, by rwa [List.append_nil], ?_⟩
    rw [expand, empty]
  | succ steps ih =>
    obtain ⟨popped, settled, current, rfl, ledger⟩ := reached.ledger
    obtain ⟨rest, split, pending⟩ := ledger.rest_of_chain asking
    cases rest with
    | nil =>
      rw [(picksLeft_eq_zero_iff state).2 pending] at left
      cases left
    | cons choice rest =>
      have head : state.headChoice? = some choice := headChoice?_eq_some_iff.2 ⟨_, pending⟩
      have expanded := expand_of_head head candidates
      cases legal : state.legalPicks choice candidates with
      | nil =>
        refine ⟨[], state, by rwa [List.append_nil], ?_⟩
        rw [expanded, legal]
      | cons child children =>
        have picked : child ∈ state.legalPicks choice candidates := by
          rw [legal]
          exact List.mem_cons_self
        have next := reached.pick head rfl expanded picked
        obtain ⟨name, _, rfl⟩ := List.mem_map.1 picked
        have fewer := picksLeft_pick state choice _ name pending
        obtain ⟨more, final, onward, stuck⟩ := ih next (Nat.succ.inj (fewer.trans left))
        exact ⟨_, final, by rwa [← List.append_assoc], stuck⟩

/-- A chain over candidates without repetition. Every state leads to one that has no child. Where
there is room for what the chain asks for up to each choice, every incomplete state has a child, so
every state leads to a complete one. Where caps rise and there is no such room, no state that is
reached is complete. So where caps rise, all states without a child are complete or none is. -/
theorem chain_feasible (choices : List AbilityChoice) (candidates : List String)
    (distinct : candidates.Nodup) (asking : ∀ choice ∈ choices, 1 ≤ choice.count) :
    (∀ made state, ReachesOver candidates choices made state → ∃ more final,
      ReachesOver candidates choices (made ++ more) final ∧ final.expand candidates = .ok []) ∧
    (HasRoom candidates.length choices →
      ∀ made state, ReachesOver candidates choices made state →
      (state.isComplete = false →
        ∃ children, state.expand candidates = .ok children ∧ children ≠ []) ∧
      ∃ more final, ReachesOver candidates choices (made ++ more) final ∧ final.isComplete) ∧
    (CapsRise choices →
      (∃ position, ∃ inside : position < choices.length,
        candidates.length * choices[position].max < asked choices position) →
      ∀ made state, ReachesOver candidates choices made state → state.isComplete = false) ∧
    (CapsRise choices →
      (∀ made state, ReachesOver candidates choices made state →
        state.expand candidates = .ok [] → state.isComplete) ∨
      (∀ made state, ReachesOver candidates choices made state →
        state.expand candidates = .ok [] → state.isComplete = false)) := by
  have stuck {made : List Pick} {state : Expansion} (room : HasRoom candidates.length choices)
      (reached : ReachesOver candidates choices made state)
      (ended : state.expand candidates = .ok []) : state.isComplete := by
    by_contra incomplete
    obtain ⟨children, expanded, some⟩ :=
      reached.expand_ne_nil distinct asking room (Bool.eq_false_iff.2 incomplete)
    exact some (Except.ok.inj (expanded.symm.trans ended))
  refine ⟨fun made state reached => reached.exists_stuck asking, ?_, ?_, ?_⟩
  · intro room made state reached
    refine ⟨reached.expand_ne_nil distinct asking room, ?_⟩
    obtain ⟨more, final, onward, ended⟩ := reached.exists_stuck asking
    exact ⟨more, final, onward, stuck room onward ended⟩
  · rintro rise ⟨position, inside, short⟩ made state reached
    by_contra complete
    have room := reached.hasRoom_of_complete distinct asking rise
      (Bool.eq_true_of_not_eq_false complete)
    exact absurd (room position inside) (Nat.not_le_of_lt short)
  · intro rise
    by_cases room : HasRoom candidates.length choices
    · exact Or.inl fun made state reached ended => stuck room reached ended
    · refine Or.inr fun made state reached _ => ?_
      by_contra complete
      exact room (reached.hasRoom_of_complete distinct asking rise
        (Bool.eq_true_of_not_eq_false complete))

/-- Two names have room for one pick and three more when the cap rises, but not for three picks
while it stays. -/
theorem chain_feasible_two_names :
    let candidates : List String := ["Strength", "Wisdom"]
    let rising : List AbilityChoice := [⟨Guid.nil, 1, 1, ""⟩, ⟨Guid.nil, 3, 2, ""⟩]
    let level : List AbilityChoice := [⟨Guid.nil, 1, 1, ""⟩, ⟨Guid.nil, 2, 1, ""⟩]
    (∃ made final, ReachesOver candidates rising made final ∧ final.isComplete) ∧
      ∀ made state, ReachesOver candidates level made state → state.isComplete = false := by
  intro candidates rising level
  obtain ⟨_, resolves, _, _⟩ := chain_feasible rising candidates (by decide) (by decide)
  obtain ⟨_, _, fails, _⟩ := chain_feasible level candidates (by decide) (by decide)
  obtain ⟨_, more, final, reached, complete⟩ := resolves (by decide) [] _ Reaches.start
  exact ⟨⟨more, final, reached, complete⟩, fails (by decide) ⟨1, by decide, by decide⟩⟩

/-- Where a cap is smaller than an earlier one, it can depend on the picks whether the chain
completes. -/
example :
    let wide : AbilityChoice := ⟨Guid.nil, 2, 2, ""⟩
    let narrow : AbilityChoice := ⟨Guid.nil, 1, 1, ""⟩
    let first := (ofSelectors [.ability wide, .ability narrow]).pick wide "Strength"
    ((first.pick wide "Strength").pick narrow "Wisdom").isComplete ∧
      (first.pick wide "Wisdom").isComplete = false ∧
      (first.pick wide "Wisdom").expand ["Strength", "Wisdom"] = .ok [] := by
  decide

end Chain

end Expansion

end FeatLoom
