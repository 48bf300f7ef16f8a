import FeatLoom.Proofs.Weaving.Links

/-!
# What pruning keeps

A wiring is built by making tiers, registering modules in them, wiring them under parents and
pruning, in any order; a tier may be wired under several parents, or several times. Pruning takes
out the tiers without a child, and nothing else. Tiers only ever get more children, so one that has
a child stays wherever it is wired and shows there what is registered later.
-/

namespace FeatLoom

namespace Tier

/-- Whether some module of the tier has a child. -/
def HasChild (tier : Tier) : Prop := ∃ module child, child ∈ (tier.get? module).getD []

theorem hasSpells_iff {tier : Tier} : tier.hasSpells = true ↔ tier.HasChild := by
  rw [hasSpells, List.any_eq_true]
  constructor
  · rintro ⟨⟨module, spells⟩, listed, some⟩
    obtain ⟨child, member⟩ := List.exists_mem_of_ne_nil spells (by simpa using some)
    have found := (tier.get?_eq_some_iff module spells).2 listed
    exact ⟨module, child, by rwa [found]⟩
  · rintro ⟨module, child, member⟩
    cases found : tier.get? module with
    | none =>
      rw [found] at member
      cases member
    | some spells =>
      rw [found] at member
      refine ⟨(module, spells), (tier.get?_eq_some_iff module spells).1 found, ?_⟩
      simpa using List.ne_nil_of_mem member

instance (tier : Tier) : Decidable tier.HasChild := decidable_of_iff _ hasSpells_iff

theorem HasChild.register {tier : Tier} (full : tier.HasChild) (module : String)
    (spell : Option String) : HasChild (tier.register module spell) := by
  obtain ⟨other, child, member⟩ := full
  refine ⟨other, child, ?_⟩
  rw [Tier.register, OrderedMap.get?_alter]
  split
  · next same =>
    subst same
    exact List.mem_append_left _ member
  · exact member

theorem HasChild.registerAll {tier : Tier} (full : tier.HasChild)
    (entries : List (String × Option String)) : HasChild (tier.registerAll entries) := by
  induction entries generalizing tier with
  | nil => exact full
  | cons entry entries ih => exact ih (full.register entry.1 entry.2)

end Tier

namespace Wiring

inductive Edit where
  | newTier
  | register (n : Nat) (module : String) (spell : Option String)
  | wire (parent : String) (n : Nat)
  | prune
  deriving DecidableEq

def perform (wiring : Wiring) : Edit → Wiring
  | .newTier => wiring.newTier OrderedMap.empty
  | .register n module spell => wiring.register n module spell
  | .wire parent n => wiring.wire parent n
  | .prune => wiring.prune

def built (edits : List Edit) : Wiring := edits.foldl perform {}

def registrations (n : Nat) (edits : List Edit) : List (String × Option String) :=
  edits.filterMap fun
    | .register other module spell => if other = n then some (module, spell) else none
    | _ => none

variable {wiring : Wiring}

/-! ## Tiers -/

theorem below_of_hasChild {n : Nat} (full : (wiring.tier n).HasChild) : n < wiring.tiers.size := by
  by_contra beyond
  have none : wiring.tier n = OrderedMap.empty := by simp [tier, Nat.le_of_not_lt beyond]
  obtain ⟨module, child, member⟩ := none ▸ full
  cases member

theorem size_le_perform (edit : Edit) : wiring.tiers.size ≤ (wiring.perform edit).tiers.size := by
  cases edit with
  | newTier => simp [perform, newTier]
  | register => simp [perform, register]
  | wire => exact Nat.le_refl _
  | prune => exact Nat.le_refl _

theorem tier_perform {n : Nat} (below : n < wiring.tiers.size) (edit : Edit) :
    (wiring.perform edit).tier n = (wiring.tier n).registerAll (registrations n [edit]) := by
  cases edit with
  | newTier =>
    simp [perform, newTier, tier, registrations, Tier.registerAll, Array.getElem?_push,
      Nat.ne_of_lt below]
  | register other module spell =>
    by_cases same : other = n
    · subst same
      simp [perform, register, tier, registrations, Tier.registerAll, below,
        Array.getElem_modify_self]
    · simp [perform, register, tier, registrations, Tier.registerAll, same,
        Array.getElem?_modify]
  | wire => rfl
  | prune => rfl

theorem tier_run {n : Nat} (below : n < wiring.tiers.size) (edits : List Edit) :
    (edits.foldl perform wiring).tier n =
      (wiring.tier n).registerAll (registrations n edits) := by
  induction edits generalizing wiring with
  | nil => rfl
  | cons edit edits ih =>
    have split : registrations n (edit :: edits) =
        registrations n [edit] ++ registrations n edits := List.filterMap_append (l := [edit])
    rw [List.foldl_cons, ih (Nat.lt_of_lt_of_le below (size_le_perform edit)),
      tier_perform below, split, Tier.registerAll, Tier.registerAll, Tier.registerAll,
      List.foldl_append]

theorem hasChild_perform {n : Nat} (full : (wiring.tier n).HasChild) (edit : Edit) :
    ((wiring.perform edit).tier n).HasChild := by
  rw [tier_perform (below_of_hasChild full)]
  exact full.registerAll _

/-! ## Parents -/

theorem get?_parents_wire (other : String) (n : Nat) (parent : String) :
    (wiring.wire other n).parents.get? parent =
      if other = parent then some (wiring.numbersUnder other ++ [n])
      else wiring.parents.get? parent :=
  OrderedMap.get?_alter ..

/-- Tiers with a child that are wired first under a parent stay so, whatever is done. -/
theorem prefix_perform {parent : String} {kept : List Nat}
    (full : ∀ n ∈ kept, (wiring.tier n).HasChild) (first : kept <+: wiring.numbersUnder parent)
    (edit : Edit) : kept <+: (wiring.perform edit).numbersUnder parent := by
  cases edit with
  | newTier => exact first
  | register => exact first
  | wire other n =>
    rw [perform, numbersUnder, get?_parents_wire]
    split
    · next same =>
      subst same
      exact first.trans (List.prefix_append _ _)
    · exact first
  | prune =>
    have all : kept.filter (fun n => (wiring.tier n).hasSpells) = kept :=
      List.filter_eq_self.2 fun n member => Tier.hasSpells_iff.2 (full n member)
    rw [perform, numbersUnder_prune, ← all]
    exact first.filter _

theorem prefix_run {parent : String} {kept : List Nat}
    (full : ∀ n ∈ kept, (wiring.tier n).HasChild) (first : kept <+: wiring.numbersUnder parent)
    (edits : List Edit) : kept <+: (edits.foldl perform wiring).numbersUnder parent := by
  induction edits generalizing wiring with
  | nil => exact first
  | cons edit edits ih =>
    exact ih (fun n member => hasChild_perform (full n member) edit)
      (prefix_perform full first edit)

def IsPopulated (wiring : Wiring) : Prop :=
  ∀ parent numbers, wiring.parents.get? parent = some numbers → numbers ≠ []

theorem IsPopulated.perform (populated : wiring.IsPopulated) (edit : Edit) :
    (wiring.perform edit).IsPopulated := by
  cases edit with
  | newTier => exact populated
  | register => exact populated
  | wire other n =>
    intro parent numbers listed
    rw [Wiring.perform, get?_parents_wire] at listed
    split at listed
    · obtain rfl := Option.some.inj listed
      exact List.append_ne_nil_of_right_ne_nil _ (List.cons_ne_nil _ _)
    · exact populated parent numbers listed
  | prune =>
    intro parent numbers listed
    rw [Wiring.perform, get?_parents_prune, Option.filter_eq_some_iff] at listed
    simpa using listed.2

theorem IsPopulated.run (populated : wiring.IsPopulated) (edits : List Edit) :
    (edits.foldl Wiring.perform wiring).IsPopulated := by
  induction edits generalizing wiring with
  | nil => exact populated
  | cons edit edits ih => exact ih (populated.perform edit)

theorem isPopulated_built (edits : List Edit) : (built edits).IsPopulated := by
  have start : IsPopulated {} := fun parent numbers listed => nomatch listed
  exact start.run edits

theorem numbersUnder_of_mem {entry : String × List Nat} (member : entry ∈ wiring.parents.entries) :
    wiring.numbersUnder entry.1 = entry.2 := by
  rw [numbersUnder, (OrderedMap.get?_eq_some_iff _ _ _).2 member, Option.getD_some]

/-- The parents that are left without a tier are gone, and the others stay in their order. -/
theorem keys_prune (wiring : Wiring) :
    wiring.prune.parents.keys =
      wiring.parents.keys.filter fun parent => wiring.prune.numbersUnder parent ≠ [] := by
  have kept : ∀ entry ∈ wiring.parents.entries,
      (!(entry.2.filter fun n => (wiring.tier n).hasSpells).isEmpty) =
        decide (wiring.prune.numbersUnder entry.1 ≠ []) := by
    intro entry member
    rw [numbersUnder_prune, numbersUnder_of_mem member]
    cases entry.2.filter fun n => (wiring.tier n).hasSpells with
    | nil => rfl
    | cons n rest => rfl
  change ((wiring.parents.entries.map fun entry =>
      (entry.1, entry.2.filter fun n => (wiring.tier n).hasSpells)).filter
        fun entry => !entry.2.isEmpty).map Prod.fst =
    (wiring.parents.entries.map Prod.fst).filter _
  rw [List.filter_map, List.map_map, List.filter_map]
  exact congrArg (List.map Prod.fst) (List.filter_congr kept)

/-- Pruning takes out of the list of every parent just the tiers without a child, and the parents
whose lists it empties; no tier changes, and pruning again changes nothing. Under every parent the
tiers that are left stay first, whatever is done later, and show all that is registered in them. -/
theorem prune_keeps_content (edits : List Edit) :
    let wiring := built edits
    wiring.IsPopulated ∧
      (∀ parent, wiring.prune.numbersUnder parent =
        (wiring.numbersUnder parent).filter fun n => (wiring.tier n).HasChild) ∧
      wiring.prune.parents.keys =
        wiring.parents.keys.filter (fun parent => wiring.prune.numbersUnder parent ≠ []) ∧
      (∀ n, wiring.prune.tier n = wiring.tier n) ∧
      wiring.prune.prune = wiring.prune ∧
      ∀ later : List Edit,
        (∀ parent, wiring.prune.numbersUnder parent <+:
          (built (edits ++ .prune :: later)).numbersUnder parent) ∧
        ∀ n, (wiring.tier n).HasChild →
          (built (edits ++ .prune :: later)).tier n =
              (wiring.tier n).registerAll (registrations n later) ∧
            ∀ parent, n ∈ wiring.numbersUnder parent →
              n ∈ (built (edits ++ .prune :: later)).numbersUnder parent := by
  intro wiring
  have left (parent : String) : wiring.prune.numbersUnder parent =
      (wiring.numbersUnder parent).filter fun n => (wiring.tier n).HasChild := by
    rw [numbersUnder_prune]
    refine List.filter_congr fun n _ => ?_
    rw [Bool.eq_iff_iff, Tier.hasSpells_iff, decide_eq_true_eq]
  refine ⟨isPopulated_built edits, left, keys_prune wiring, fun _ => rfl, prune_prune wiring,
    fun later => ?_⟩
  have goesOn : built (edits ++ .prune :: later) = later.foldl perform wiring.prune := by
    rw [built, List.foldl_append]
    rfl
  have stays (parent : String) : wiring.prune.numbersUnder parent <+:
      (built (edits ++ .prune :: later)).numbersUnder parent := by
    rw [goesOn]
    refine prefix_run (fun n member => ?_) List.prefix_rfl later
    rw [left, List.mem_filter, decide_eq_true_eq] at member
    exact member.2
  refine ⟨stays, fun n full => ⟨?_, fun parent wired => ?_⟩⟩
  · rw [goesOn]
    exact tier_run (below_of_hasChild full : n < wiring.prune.tiers.size) later
  · refine (stays parent).subset ?_
    rw [left, List.mem_filter, decide_eq_true_eq]
    exact ⟨wired, full⟩

/-- The first tier is wired twice under one parent and once under another; the second one, which
only has a module without a child, is all that a third parent has. -/
theorem prune_keeps_content_shared :
    let edits : List Edit := [.newTier, .newTier, .register 0 "Main" (some "Gift"),
      .register 1 "Main" none, .wire "Top" 0, .wire "Top" 1, .wire "Gone" 1, .wire "Top" 0,
      .wire "Side" 0]
    let later : List Edit := [.register 0 "Other" (some "Luck"), .prune]
    let last := built (edits ++ .prune :: later)
    ((built edits).tier 0).HasChild ∧ 0 ∈ (built edits).numbersUnder "Side" ∧
      (built edits).prune.parents.keys = ["Top", "Side"] ∧
      (built edits).prune.numbersUnder "Top" = [0, 0] ∧
      last.tier 0 = .ofList [("Main", ["Gift"]), ("Other", ["Luck"])] ∧
      0 ∈ last.numbersUnder "Side" := by
  intro edits later last
  have full : ((built edits).tier 0).HasChild := by decide
  have wired : 0 ∈ (built edits).numbersUnder "Side" := by decide
  obtain ⟨_, left, keys, _, _, goesOn⟩ := prune_keeps_content edits
  obtain ⟨grown, shown⟩ := (goesOn later).2 0 full
  refine ⟨full, wired, ?_, ?_, ?_, shown "Side" wired⟩
  · rw [keys]
    decide
  · rw [left]
    decide
  · rw [grown]
    decide

end Wiring

end FeatLoom
