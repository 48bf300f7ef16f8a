import Mathlib.Data.List.Basic

/-!
# Sequences of picks

Picks are made slot by slot. A slot offers candidates and has a cap: a name may be picked while it
has come up fewer times than the cap allows, whichever slots it was picked for. A path gives the
positions of the picks among the candidates. `pathsFrom` walks through the paths depth first, and
this is the lexicographic order in which a path comes before its extensions.
-/

namespace FeatLoom

structure Slot where
  candidates : List String
  cap : Nat
  deriving DecidableEq

namespace Slot

def names (slots : List Slot) (path : List Nat) : List String :=
  List.zipWith (fun slot position => slot.candidates.getD position "") slots path

def positions (slots : List Slot) (picks : List String) : List Nat :=
  List.zipWith (fun slot name => slot.candidates.idxOf name) slots picks

/-- A path is legal for slots after earlier picks when it has no more picks than there are slots and
each pick is a candidate of its slot that has come up fewer times than the cap of the slot. -/
structure IsLegal (earlier : List String) (slots : List Slot) (path : List Nat) : Prop where
  length_le : path.length ≤ slots.length
  within : ∀ (j : Nat) (slot : Slot) (position : Nat), slots[j]? = some slot →
    path[j]? = some position → ∃ name, slot.candidates[position]? = some name ∧
      (earlier ++ names slots (path.take j)).count name < slot.cap

def legal (earlier : List String) (slot : Slot) : List (String × Nat) :=
  slot.candidates.zipIdx.filter fun pick => earlier.count pick.1 < slot.cap

def pathsFrom (earlier : List String) : List Slot → List (List Nat)
  | [] => [[]]
  | slot :: slots =>
    [] :: (slot.legal earlier).flatMap fun pick =>
      (pathsFrom (earlier ++ [pick.1]) slots).map (pick.2 :: ·)

theorem mem_legal (earlier : List String) (slot : Slot) (name : String) (position : Nat) :
    (name, position) ∈ slot.legal earlier ↔
      slot.candidates[position]? = some name ∧ earlier.count name < slot.cap := by
  simp [legal, List.mem_zipIdx_iff_getElem?]

theorem map_fst_legal (earlier : List String) (slot : Slot) :
    (slot.legal earlier).map Prod.fst =
      slot.candidates.filter fun name => earlier.count name < slot.cap := by
  have split := List.filter_map (f := Prod.fst) (l := slot.candidates.zipIdx)
    (p := fun name => decide (earlier.count name < slot.cap))
  rw [List.zipIdx_map_fst] at split
  exact split.symm

theorem names_cons {slot : Slot} {position : Nat} {name : String}
    (there : slot.candidates[position]? = some name) (slots : List Slot) (path : List Nat) :
    names (slot :: slots) (position :: path) = name :: names slots path := by
  simp [names, List.getD_eq_getElem?_getD, there]

theorem isLegal_nil (earlier : List String) (slots : List Slot) : IsLegal earlier slots [] := by
  refine ⟨Nat.zero_le _, ?_⟩
  intro j slot position _ picked
  simp at picked

theorem isLegal_cons (earlier : List String) (slot : Slot) (slots : List Slot) (position : Nat)
    (path : List Nat) : IsLegal earlier (slot :: slots) (position :: path) ↔
      ∃ name, (name, position) ∈ slot.legal earlier ∧ IsLegal (earlier ++ [name]) slots path := by
  constructor
  · intro legal
    obtain ⟨name, there, few⟩ := legal.within 0 slot position rfl rfl
    refine ⟨name, (mem_legal ..).2 ⟨there, by simpa [names] using few⟩, ?_, ?_⟩
    · exact Nat.le_of_succ_le_succ legal.length_le
    · intro j other next inSlots inPath
      obtain ⟨found, thereToo, fewToo⟩ := legal.within (j + 1) other next inSlots inPath
      refine ⟨found, thereToo, ?_⟩
      rw [List.take_succ_cons, names_cons there] at fewToo
      simpa using fewToo
  · rintro ⟨name, picked, rest⟩
    obtain ⟨there, few⟩ := (mem_legal ..).1 picked
    refine ⟨Nat.succ_le_succ rest.length_le, ?_⟩
    intro j other next inSlots inPath
    cases j with
    | zero =>
      simp only [List.getElem?_cons_zero, Option.some.injEq] at inSlots inPath
      subst inSlots inPath
      exact ⟨name, there, by simpa [names] using few⟩
    | succ j =>
      obtain ⟨found, thereToo, fewToo⟩ := rest.within j other next inSlots inPath
      refine ⟨found, thereToo, ?_⟩
      rw [List.take_succ_cons, names_cons there]
      simpa using fewToo

theorem mem_pathsFrom (earlier : List String) (slots : List Slot) (path : List Nat) :
    path ∈ pathsFrom earlier slots ↔ IsLegal earlier slots path := by
  induction slots generalizing earlier path with
  | nil =>
    rw [pathsFrom, List.mem_singleton]
    constructor
    · rintro rfl
      exact isLegal_nil earlier []
    · intro legal
      exact List.eq_nil_of_length_eq_zero (Nat.le_zero.1 legal.length_le)
  | cons slot slots ih =>
    cases path with
    | nil => simp [pathsFrom, isLegal_nil]
    | cons position path =>
      rw [isLegal_cons]
      simp only [pathsFrom, List.mem_cons, List.cons_ne_nil, false_or, List.mem_flatMap,
        List.mem_map, List.cons.injEq, Prod.exists]
      constructor
      · rintro ⟨name, _, picked, rest, member, rfl, rfl⟩
        exact ⟨name, picked, (ih _ _).1 member⟩
      · rintro ⟨name, picked, legal⟩
        exact ⟨name, position, picked, path, (ih _ _).2 legal, rfl, rfl⟩

theorem pathsFrom_replicate {name : String} {cap : Nat} (made turns : Nat)
    (below : made + turns ≤ cap) :
    pathsFrom (List.replicate made name) (List.replicate turns ⟨[name], cap⟩) =
      (List.range (turns + 1)).map fun picks => List.replicate picks 0 := by
  induction turns generalizing made with
  | zero => rfl
  | succ turns ih =>
    have few : made < cap := by omega
    have legal : (⟨[name], cap⟩ : Slot).legal (List.replicate made name) = [(name, 0)] := by
      simp [Slot.legal, few]
    rw [List.replicate_succ, pathsFrom, legal, List.flatMap_singleton, ← List.replicate_succ',
      ih (made + 1) (by omega), List.map_map, List.range_succ_eq_map (n := turns + 1), List.map_cons,
      List.map_map]
    rfl

theorem legal_pairwise (earlier : List String) (slot : Slot) :
    (slot.legal earlier).Pairwise fun a b => a.2 < b.2 := by
  refine List.Pairwise.filter _ ?_
  rw [← List.pairwise_map (f := Prod.snd), List.zipIdx_map_snd]
  exact List.pairwise_lt_range'

/-- Depth first is the lexicographic order, and no path comes twice. -/
theorem pathsFrom_pairwise (earlier : List String) (slots : List Slot) :
    (pathsFrom earlier slots).Pairwise (· < ·) := by
  induction slots generalizing earlier with
  | nil => exact List.pairwise_singleton _ _
  | cons slot slots ih =>
    rw [pathsFrom, List.pairwise_cons]
    constructor
    · intro path member
      obtain ⟨pick, _, inside⟩ := List.mem_flatMap.1 member
      obtain ⟨rest, _, rfl⟩ := List.mem_map.1 inside
      exact List.nil_lt_cons _ _
    · rw [List.pairwise_flatMap]
      constructor
      · intro pick _
        rw [List.pairwise_map]
        exact (ih _).imp fun before => List.cons_lt_cons_iff.2 (Or.inr ⟨rfl, before⟩)
      · refine (legal_pairwise earlier slot).imp fun before => ?_
        intro first inFirst second inSecond
        obtain ⟨_, _, rfl⟩ := List.mem_map.1 inFirst
        obtain ⟨_, _, rfl⟩ := List.mem_map.1 inSecond
        exact List.cons_lt_cons_iff.2 (Or.inl before)

example : pathsFrom [] [⟨["Strength", "Wisdom"], 1⟩, ⟨["Strength", "Wisdom"], 1⟩] =
    [[], [0], [0, 1], [1], [1, 0]] := by decide

/-! ## Full sequences -/

/-- Picks fill slots after earlier picks when each slot has its pick: a candidate of the slot that
has come up fewer times than the cap of the slot. -/
structure Fills (earlier : List String) (slots : List Slot) (picks : List String) : Prop where
  length_eq : picks.length = slots.length
  within : ∀ (j : Nat) (slot : Slot) (name : String), slots[j]? = some slot →
    picks[j]? = some name →
      name ∈ slot.candidates ∧ (earlier ++ picks.take j).count name < slot.cap

def fullPaths (earlier : List String) (slots : List Slot) : List (List Nat) :=
  (pathsFrom earlier slots).filter fun path => path.length = slots.length

theorem fullPaths_nil (earlier : List String) : fullPaths earlier [] = [[]] := rfl

theorem fullPaths_cons (earlier : List String) (slot : Slot) (slots : List Slot) :
    fullPaths earlier (slot :: slots) = (slot.legal earlier).flatMap fun pick =>
      (fullPaths (earlier ++ [pick.1]) slots).map (pick.2 :: ·) := by
  simp [fullPaths, pathsFrom, List.filter_flatMap, List.filter_map, Function.comp_def]

theorem fills_cons (earlier : List String) (slot : Slot) (slots : List Slot) (name : String)
    (picks : List String) : Fills earlier (slot :: slots) (name :: picks) ↔
      name ∈ slot.candidates ∧ earlier.count name < slot.cap ∧
        Fills (earlier ++ [name]) slots picks := by
  constructor
  · intro fills
    obtain ⟨there, few⟩ := fills.within 0 slot name rfl rfl
    refine ⟨there, by simpa using few, Nat.succ.inj fills.length_eq, ?_⟩
    intro j other next inSlots inPicks
    simpa using fills.within (j + 1) other next inSlots inPicks
  · rintro ⟨there, few, rest⟩
    refine ⟨congrArg Nat.succ rest.length_eq, ?_⟩
    intro j other next inSlots inPicks
    cases j with
    | zero =>
      simp only [List.getElem?_cons_zero, Option.some.injEq] at inSlots inPicks
      subst inSlots inPicks
      exact ⟨there, by simpa using few⟩
    | succ j => simpa using rest.within j other next inSlots inPicks

theorem mem_map_names_fullPaths (earlier : List String) (slots : List Slot)
    (picks : List String) :
    picks ∈ (fullPaths earlier slots).map (names slots) ↔ Fills earlier slots picks := by
  induction slots generalizing earlier picks with
  | nil =>
    rw [fullPaths_nil, List.map_singleton, List.mem_singleton]
    constructor
    · rintro rfl
      exact ⟨rfl, by simp⟩
    · intro fills
      exact List.eq_nil_of_length_eq_zero fills.length_eq
  | cons slot slots ih =>
    rw [fullPaths_cons]
    constructor
    · intro member
      obtain ⟨_, inPaths, rfl⟩ := List.mem_map.1 member
      obtain ⟨⟨name, position⟩, picked, inside⟩ := List.mem_flatMap.1 inPaths
      obtain ⟨path, inRest, rfl⟩ := List.mem_map.1 inside
      obtain ⟨there, few⟩ := (mem_legal ..).1 picked
      rw [names_cons there, fills_cons]
      exact ⟨List.mem_of_getElem? there, few, (ih _ _).1 (List.mem_map_of_mem inRest)⟩
    · intro fills
      cases picks with
      | nil => exact absurd fills.length_eq (Nat.succ_ne_zero _).symm
      | cons name picks =>
        obtain ⟨there, few, rest⟩ := (fills_cons ..).1 fills
        obtain ⟨position, found⟩ := List.mem_iff_getElem?.1 there
        obtain ⟨path, inRest, rfl⟩ := List.mem_map.1 ((ih _ _).2 rest)
        rw [← names_cons found]
        apply List.mem_map_of_mem
        apply List.mem_flatMap.2
        exact ⟨(name, position), (mem_legal ..).2 ⟨found, few⟩, List.mem_map_of_mem inRest⟩

/-- Where no list repeats a candidate, the names of a path lead back to its positions. -/
theorem positions_names {slots : List Slot} (distinct : ∀ slot ∈ slots, slot.candidates.Nodup)
    {earlier : List String} {path : List Nat} (legal : IsLegal earlier slots path) :
    positions slots (names slots path) = path := by
  induction slots generalizing earlier path with
  | nil => simp [positions, List.eq_nil_of_length_eq_zero (Nat.le_zero.1 legal.length_le)]
  | cons slot slots ih =>
    cases path with
    | nil => rfl
    | cons position path =>
      rw [List.forall_mem_cons] at distinct
      obtain ⟨name, picked, rest⟩ := (isLegal_cons ..).1 legal
      obtain ⟨there, _⟩ := (mem_legal ..).1 picked
      obtain ⟨bound, rfl⟩ := List.getElem?_eq_some_iff.1 there
      have others := ih distinct.2 rest
      rw [positions] at others
      rw [names_cons there, positions, List.zipWith_cons_cons, others,
        distinct.1.idxOf_getElem position bound]

/-- Full sequences come in the lexicographic order of the positions of their names. -/
theorem map_names_fullPaths_pairwise {slots : List Slot}
    (distinct : ∀ slot ∈ slots, slot.candidates.Nodup) (earlier : List String) :
    ((fullPaths earlier slots).map (names slots)).Pairwise fun first second =>
      positions slots first < positions slots second := by
  rw [List.pairwise_map]
  refine List.Pairwise.imp_of_mem ?_ ((pathsFrom_pairwise earlier slots).filter _)
  intro first second inFirst inSecond before
  have legal (path : List Nat) (member : path ∈ fullPaths earlier slots) :
      IsLegal earlier slots path := (mem_pathsFrom ..).1 (List.mem_of_mem_filter member)
  rwa [positions_names distinct (legal first inFirst),
    positions_names distinct (legal second inSecond)]

end Slot

end FeatLoom
