import FeatLoom.Feat
import FeatLoom.OrderedMap

/-!
# Expansion of choices

The choices of a feat are made one pick at a time. A state holds the selectors still pending, how
often each ability has been raised, and the picks made for the selector at the head. A pick is
legal while its ability has been raised fewer times than the head allows; the pick that completes
the head's count takes it off the queue. `picksLeft` counts the picks that remain, and every legal
pick lowers it by one.
-/

namespace FeatLoom

structure Expansion where
  pending : List Selector
  raised : OrderedMap String Int := OrderedMap.empty
  picks : List String := []
  deriving DecidableEq

namespace Expansion

instance : Inhabited Expansion := ⟨⟨[], OrderedMap.empty, []⟩⟩

def asksForPicks : Selector → Bool
  | .ability choice => choice.count != 0
  | _ => true

def ofSelectors (selectors : List Selector) : Expansion :=
  ⟨selectors.filter asksForPicks, OrderedMap.empty, []⟩

def current? (state : Expansion) : Option Selector := state.pending.head?

def isComplete (state : Expansion) : Bool := state.pending.isEmpty

def advance (state : Expansion) : Expansion :=
  { state with pending := state.pending.tail, picks := [] }

def timesRaised (state : Expansion) (ability : String) : Int := (state.raised.get? ability).getD 0

def raise (state : Expansion) (ability : String) : Expansion :=
  { state with raised := state.raised.alter ability fun present => present.getD 0 + 1 }

def completes (state : Expansion) (choice : AbilityChoice) : Bool :=
  choice.count ≤ state.picks.length + 1

def isLegal (state : Expansion) (choice : AbilityChoice) (candidate : String) : Bool :=
  state.timesRaised candidate < choice.max

def pick (state : Expansion) (choice : AbilityChoice) (candidate : String) : Expansion :=
  if state.completes choice then state.advance.raise candidate
  else ({ state with picks := state.picks ++ [candidate] } : Expansion).raise candidate

def legalPicks (state : Expansion) (choice : AbilityChoice) (candidates : List String) :
    List (String × Expansion) :=
  (candidates.filter (state.isLegal choice)).map fun candidate =>
    (candidate, state.pick choice candidate)

/-- The legal picks for the head. Only choices of abilities can be expanded; for another head the
result is its kind. -/
def expand (state : Expansion) (candidates : List String) :
    Except SelectorKind (List (String × Expansion)) :=
  match state.pending with
  | [] => .ok []
  | .ability choice :: _ => .ok (state.legalPicks choice candidates)
  | selector :: _ => .error selector.kind

def unimplementedMessage (kind : SelectorKind) : String :=
  "Expansion of " ++ kind.name ++ " selectors is not implemented"

def scoreCap : Int := 20

def boosts (state : Expansion) : List String :=
  state.raised.entries.map fun entry => "Ability(" ++ entry.1 ++ "," ++ toString entry.2 ++ ")"

def requirements (state : Expansion) : List String :=
  state.raised.entries.map fun entry =>
    "not AbilityGreaterThan('" ++ entry.1 ++ "'," ++ toString (scoreCap - entry.2) ++ ")"

/-! ## The picks that remain -/

/-- The picks that a selector asks for, of which some have been made. A pick for a selector that
asks for no more completes it. -/
def picksFor (made : Nat) : Selector → Nat
  | .ability choice => max 1 (choice.count - made)
  | _ => 1

def picksForAll : List Selector → Nat
  | [] => 0
  | selector :: rest => picksFor 0 selector + picksForAll rest

def picksLeft (state : Expansion) : Nat :=
  match state.pending with
  | [] => 0
  | head :: rest => picksFor state.picks.length head + picksForAll rest

theorem picksLeft_eq_zero_iff (state : Expansion) : state.picksLeft = 0 ↔ state.pending = [] := by
  unfold picksLeft
  split
  · next none => simp [none]
  · next head rest some =>
    have positive : 1 ≤ picksFor state.picks.length head := by
      cases head with
      | ability choice => exact Nat.le_max_left _ _
      | _ => exact Nat.le_refl 1
    simp [some]
    omega

theorem picksLeft_pick (state : Expansion) (choice : AbilityChoice) (rest : List Selector)
    (candidate : String) (head : state.pending = .ability choice :: rest) :
    (state.pick choice candidate).picksLeft + 1 = state.picksLeft := by
  unfold pick
  by_cases done : state.completes choice
  · have few : choice.count - state.picks.length ≤ 1 := by
      simp only [completes, decide_eq_true_eq] at done
      omega
    have one : picksFor state.picks.length (.ability choice) = 1 := by
      simp only [picksFor]
      omega
    simp only [done, if_true, raise, advance, picksLeft, head, List.tail_cons, one]
    cases rest with
    | nil => rfl
    | cons next others =>
      simp only [List.length_nil, picksForAll]
      omega
  · have many : 1 < choice.count - state.picks.length := by
      simp only [completes, decide_eq_true_eq] at done
      omega
    simp only [done, raise, picksLeft, head, picksFor, List.length_append, List.length_singleton,
      if_false, Bool.false_eq_true]
    omega

end Expansion

end FeatLoom
