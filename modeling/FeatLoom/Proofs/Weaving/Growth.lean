import FeatLoom.Weaving.Growth
import Mathlib.Data.List.Forall2

/-!
# Growth item by item

What is known of everything that grows for an item is known of all that grows for a list, also when
growth ends early. When it does not end early, each item has had its own growth, and it did not end
early either.
-/

namespace FeatLoom.Weaving

section Each

variable {α β : Type} {grow : α → Nat → Growth (Option β)} {items : List α} {allowed left : Nat}

/-- What holds of the outcome of growth holds of the outcome for each item as well, as long as going
on to the next item counts among it. -/
theorem forall_mem_growEach_of_outcome {good : β → Prop} (fine : Except WeaveError Nat → Prop)
    (goesOn : ∀ left, fine (.ok left))
    (each : ∀ item ∈ items, ∀ allowed, fine (grow item allowed).2 →
      ∀ grown ∈ (grow item allowed).1, good grown)
    (ended : fine (growEach grow items allowed).2) :
    ∀ grown ∈ (growEach grow items allowed).1, good grown := by
  induction items generalizing allowed with
  | nil => simp [growEach]
  | cons item items ih =>
    rw [List.forall_mem_cons] at each
    have first := each.1 allowed
    unfold growEach at ended ⊢
    split at ended
    · next grown fault result =>
      rw [result] at first
      simpa using first ended
    · next grown left result =>
      rw [result] at first
      intro tree member
      rcases List.mem_append.1 member with inFirst | inMore
      · exact first (goesOn left) tree (by simpa using inFirst)
      · exact ih each.2 ended tree inMore

theorem forall_mem_growEach {good : β → Prop}
    (each : ∀ item ∈ items, ∀ allowed, ∀ grown ∈ (grow item allowed).1, good grown) :
    ∀ grown ∈ (growEach grow items allowed).1, good grown :=
  forall_mem_growEach_of_outcome (fun _ => True) (fun _ => trivial)
    (fun item member allowed _ => each item member allowed) trivial

/-- What holds of the outcome for every item holds of the outcome for all of them. -/
theorem outcome_growEach {holds : Except WeaveError Nat → Prop} (goesOn : ∀ left, holds (.ok left))
    (each : ∀ item allowed, holds (grow item allowed).2) (items : List α) (allowed : Nat) :
    holds (growEach grow items allowed).2 := by
  induction items generalizing allowed with
  | nil => exact goesOn allowed
  | cons item items ih =>
    have first := each item allowed
    unfold growEach
    split
    · next grown fault result =>
      rwa [result] at first
    · exact ih _

theorem growEach_ok {trees : List β} (ended : growEach grow items allowed = (trees, .ok left)) :
    ∃ grown : List (Option β), trees = grown.flatMap Option.toList ∧
      List.Forall₂ (fun item tree => ∃ before after, grow item before = (tree, .ok after))
        items grown := by
  induction items generalizing allowed trees with
  | nil =>
    obtain rfl : [] = trees := congrArg Prod.fst ended
    exact ⟨[], rfl, .nil⟩
  | cons item items ih =>
    unfold growEach at ended
    split at ended
    · next grown fault result => cases ended
    · next tree after result =>
      obtain ⟨rfl, rest⟩ := Prod.mk.inj ended
      obtain ⟨grown, all, others⟩ := ih (Prod.ext rfl rest)
      refine ⟨tree :: grown, ?_, .cons ⟨allowed, after, result⟩ others⟩
      rw [List.flatMap_cons, ← all]

end Each

section Pick

variable {feat : Feat} {limit : Int} {depth : Nat} {site : Site} {supplier : Vantage}
  {kind : ListKind} {option : String × Expansion} {allowed left : Nat}

def growPick (feat : Feat) (limit : Int) (depth : Nat) (site : Site) (supplier : Vantage)
    (kind : ListKind) (option : String × Expansion) (allowed : Nat) : Growth (Option Woven) :=
  match site.after? supplier kind option with
  | none => (none, .error (.unknownCandidate kind option.1))
  | some next =>
    if site.room = 0 then (none, .error .tooDeep)
    else
      let (tree, outcome) := grow feat limit depth next allowed
      (some tree, outcome)

theorem grow_of_picks {options : List (String × Expansion)}
    (chosen : site.choice = .ok (.picks supplier kind options)) (pickable : options ≠ []) :
    grow feat limit (depth + 1) site allowed =
      let grown := growEach (growPick feat limit depth site supplier kind) options allowed
      (.branch (site.openingSpell feat) grown.1, grown.2) := by
  cases options with
  | nil => exact absurd rfl pickable
  | cons first others =>
    rw [grow, chosen]
    rfl

/-- A pick ends growth, for a reason that is not the limit, or has its tree grow, and which of both
depends on neither the limit nor the allowance. -/
theorem growPick_cases (site : Site) (supplier : Vantage) (kind : ListKind)
    (option : String × Expansion) :
    (∃ fault, (∀ bound name, fault ≠ .limitExceeded bound name) ∧
      ∀ feat limit depth allowed,
        growPick feat limit depth site supplier kind option allowed = (none, .error fault)) ∨
      ∃ next, site.after? supplier kind option = some next ∧
        ∀ feat limit depth allowed,
          growPick feat limit depth site supplier kind option allowed =
            (some (grow feat limit depth next allowed).1, (grow feat limit depth next allowed).2) := by
  unfold growPick
  cases site.after? supplier kind option with
  | none => exact .inl ⟨.unknownCandidate .., fun _ _ => nofun, fun _ _ _ _ => rfl⟩
  | some next =>
    by_cases full : site.room = 0
    · exact .inl ⟨.tooDeep, fun _ _ => nofun, fun _ _ _ _ => if_pos full⟩
    · exact .inr ⟨next, rfl, fun _ _ _ _ => if_neg full⟩

theorem growPick_tree {tree : Woven}
    (grown : tree ∈ (growPick feat limit depth site supplier kind option allowed).1) :
    ∃ next, site.after? supplier kind option = some next ∧
      tree = (grow feat limit depth next allowed).1 := by
  rcases growPick_cases site supplier kind option with ⟨fault, -, ended⟩ | ⟨next, after, grows⟩
  · rw [ended] at grown
    cases grown
  · rw [grows] at grown
    exact ⟨next, after, (Option.some.inj grown).symm⟩

theorem growPick_ok {tree : Option Woven}
    (grown : growPick feat limit depth site supplier kind option allowed = (tree, .ok left)) :
    ∃ next woven, site.after? supplier kind option = some next ∧ tree = some woven ∧
      grow feat limit depth next allowed = (woven, .ok left) := by
  rcases growPick_cases site supplier kind option with ⟨fault, -, ended⟩ | ⟨next, after, grows⟩
  · rw [ended] at grown
    cases grown
  · rw [grows] at grown
    obtain ⟨rfl, ended⟩ := Prod.mk.inj grown
    exact ⟨next, _, after, rfl, Prod.ext rfl ended⟩

theorem grow_of_picks_ok {options : List (String × Expansion)}
    (chosen : site.choice = .ok (.picks supplier kind options)) (pickable : options ≠ [])
    {tree : Woven} (grown : grow feat limit (depth + 1) site allowed = (tree, .ok left)) :
    ∃ children, tree = .branch (site.openingSpell feat) children ∧
      List.Forall₂ (fun option child => ∃ next before after,
          site.after? supplier kind option = some next ∧
            grow feat limit depth next before = (child, .ok after))
        options children := by
  rw [grow_of_picks chosen pickable] at grown
  cases all : growEach (growPick feat limit depth site supplier kind) options allowed with
  | mk children outcome =>
    rw [all] at grown
    obtain ⟨rfl, rfl⟩ := Prod.mk.inj grown
    obtain ⟨trees, rfl, each⟩ := growEach_ok all
    refine ⟨_, rfl, ?_⟩
    clear all grown chosen pickable
    induction each with
    | nil => exact .nil
    | cons first others ih =>
      obtain ⟨before, after, first⟩ := first
      obtain ⟨next, woven, there, rfl, ended⟩ := growPick_ok first
      exact .cons ⟨next, before, after, there, ended⟩ ih

end Pick

end FeatLoom.Weaving
