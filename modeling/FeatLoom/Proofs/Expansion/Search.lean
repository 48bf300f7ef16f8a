import FeatLoom.Proofs.Expansion.PickSequence
import FeatLoom.Proofs.Expansion.Turn

/-!
# Searching through all choices

A search takes the first of the open states. A complete state is found; any other is replaced by
the states after its legal picks, in their order, so the search goes depth first. Where all choices
are choices of abilities the search ends without a fault, and what it finds are exactly the full
sequences of legal picks in the lexicographic order of the candidates.
-/

namespace FeatLoom

structure Course where
  choice : AbilityChoice
  candidates : List String

namespace Course

def selector (course : Course) : Selector := .ability course.choice

def slot (course : Course) : Slot := ⟨course.candidates, course.choice.max⟩

def slots (courses : List Course) : List Slot :=
  courses.flatMap fun course => List.replicate course.choice.count course.slot

/-- The candidates of the course whose selector is at the head. A queue holds the last of the
courses that ask for picks, so its length tells which course that is. -/
def offered (courses : List Course) (state : Expansion) : List String :=
  let asking := courses.filter fun course => Expansion.asksForPicks course.selector
  ((asking.drop (asking.length - state.pending.length)).head?.map candidates).getD []

theorem slots_eq_map_turns (courses : List Course) :
    slots courses = (Expansion.turns choice courses).map slot := by
  rw [slots, Expansion.turns, List.map_flatMap]
  simp only [List.map_replicate]

end Course

structure Search where
  /-- The states that are still to be looked into, the next one first. -/
  opens : List (List String × Expansion)
  /-- The complete states in the order in which they were met. -/
  found : List (List String × Expansion) := []

namespace Search

def start (state : Expansion) : Search := ⟨[([], state)], []⟩

def step (offer : Expansion → List String) (search : Search) : Except SelectorKind Search :=
  match search.opens with
  | [] => .ok search
  | (picks, state) :: rest =>
    if state.isComplete then .ok ⟨rest, search.found ++ [(picks, state)]⟩
    else (state.expand (offer state)).map fun children =>
      ⟨children.map (fun child => (picks ++ [child.1], child.2)) ++ rest, search.found⟩

def run (offer : Expansion → List String) : Nat → Search → Except SelectorKind Search
  | 0, search => .ok search
  | steps + 1, search => (search.step offer).bind (run offer steps)

theorem run_add (offer : Expansion → List String) (first second : Nat) (search : Search) :
    run offer (first + second) search = (run offer first search).bind (run offer second) := by
  induction first generalizing search with
  | zero => rw [Nat.zero_add, run]; rfl
  | succ first ih =>
    rw [Nat.succ_add, run, run]
    cases search.step offer with
    | error fault => rfl
    | ok next => exact ih next

/-- In some number of steps the search is done with some open states and has found others. -/
def Clears (offer : Expansion → List String) (opens found : List (List String × Expansion)) :
    Prop :=
  ∃ steps, ∀ rest earlier, run offer steps ⟨opens ++ rest, earlier⟩ =
    .ok ⟨rest, earlier ++ found⟩

theorem clears_nil (offer : Expansion → List String) : Clears offer [] [] :=
  ⟨0, fun _ _ => by rw [run, List.nil_append, List.append_nil]⟩

theorem Clears.append {offer : Expansion → List String}
    {opens opens' found found' : List (List String × Expansion)}
    (first : Clears offer opens found) (second : Clears offer opens' found') :
    Clears offer (opens ++ opens') (found ++ found') := by
  obtain ⟨steps, done⟩ := first
  obtain ⟨steps', done'⟩ := second
  refine ⟨steps + steps', fun rest earlier => ?_⟩
  rw [run_add, List.append_assoc, done, Except.bind, done', List.append_assoc]

theorem clears_flatMap {α : Type} {offer : Expansion → List String} {items : List α}
    {entry : α → List String × Expansion} {found : α → List (List String × Expansion)}
    (each : ∀ item ∈ items, Clears offer [entry item] (found item)) :
    Clears offer (items.map entry) (items.flatMap found) := by
  induction items with
  | nil => exact clears_nil offer
  | cons item items ih =>
    rw [List.forall_mem_cons] at each
    exact each.1.append (ih each.2)

/-- A state that expands is done with once all states after its picks are. -/
theorem clears_expanded {offer : Expansion → List String} {picks : List String}
    {state : Expansion} {children : List (String × Expansion)}
    {found : List (List String × Expansion)} (incomplete : state.isComplete = false)
    (expanded : state.expand (offer state) = .ok children)
    (clears : Clears offer (children.map fun child => (picks ++ [child.1], child.2)) found) :
    Clears offer [(picks, state)] found := by
  obtain ⟨steps, done⟩ := clears
  refine ⟨steps + 1, fun rest earlier => ?_⟩
  rw [run, step]
  simp only [List.singleton_append, incomplete, Bool.false_eq_true, if_false, expanded]
  exact done rest earlier

/-- What a search finds below a state that awaits the picks for some slots. -/
def leaves (made : List String) (slots : List Slot) : List (List String × Expansion) :=
  (Slot.fullPaths made slots).map fun path =>
    let picks := made ++ Slot.names slots path
    (picks, ⟨[], tally picks, []⟩)

theorem leaves_cons (made : List String) (slot : Slot) (slots : List Slot) :
    leaves made (slot :: slots) =
      (slot.legal made).flatMap fun pick => leaves (made ++ [pick.1]) slots := by
  rw [leaves, Slot.fullPaths_cons, List.map_flatMap]
  apply List.flatMap_congr
  intro pick legal
  obtain ⟨there, _⟩ := (Slot.mem_legal ..).1 legal
  rw [List.map_map, leaves]
  apply List.map_congr_left
  intro path _
  simp [Slot.names_cons there]

theorem offered_eq {courses rest : List Course} {course : Course} {state : Expansion}
    (queue : course :: rest <:+
      courses.filter fun course => Expansion.asksForPicks course.selector)
    (pending : state.pending.length = rest.length + 1) :
    Course.offered courses state = course.candidates := by
  obtain ⟨before, split⟩ := queue
  have position : (before ++ course :: rest).length - state.pending.length = before.length := by
    rw [List.length_append, List.length_cons, pending]
    omega
  rw [Course.offered, ← split]
  simp only [position, List.drop_left, List.head?_cons, Option.map_some, Option.getD_some]

theorem clears_of_awaits {courses items left : List Course} {state : Expansion}
    {made : List String} (awaits : Expansion.Awaits Course.choice state made items left)
    (queue : items <:+ courses.filter fun course => Expansion.asksForPicks course.selector) :
    Clears (Course.offered courses) [(made, state)] (leaves made (left.map Course.slot)) := by
  induction left generalizing state made items with
  | nil =>
    refine ⟨1, fun rest earlier => ?_⟩
    rw [awaits.eq_of_nil, List.map_nil, leaves, Slot.fullPaths_nil]
    simp [run, step, Expansion.isComplete, Slot.names, Except.bind]
  | cons turn left ih =>
    obtain ⟨rest, rfl⟩ := awaits.items_eq
    have offer : Course.offered courses state = turn.candidates := by
      apply offered_eq queue
      rw [awaits.pending, List.length_map, List.length_cons]
    apply clears_expanded awaits.isComplete_cons (awaits.expand_eq _)
    rw [offer, List.map_cons, leaves_cons, List.map_map]
    have names : (turn.slot.legal made).map Prod.fst =
        turn.candidates.filter fun name => made.count name < turn.choice.max :=
      Slot.map_fst_legal made turn.slot
    rw [← names, List.map_map]
    apply clears_flatMap
    intro pick _
    obtain ⟨pending, suffix, next⟩ := awaits.pick pick.1
    exact ih next (suffix.trans queue)

/-- Searching through all choices of a feat ends without a fault. It finds every full sequence of
legal picks once, in the lexicographic order of the positions of the candidates, and each with the
complete state that counts its picks. -/
theorem finds_full_sequences (courses : List Course)
    (distinct : ∀ course ∈ courses, course.candidates.Nodup) :
    ∃ steps found,
      run (Course.offered courses) steps
          (start (Expansion.ofSelectors (courses.map Course.selector))) = .ok ⟨[], found⟩ ∧
        (∀ picks, picks ∈ found.map Prod.fst ↔ Slot.Fills [] (Course.slots courses) picks) ∧
        found.Pairwise (fun first second =>
          Slot.positions (Course.slots courses) first.1 <
            Slot.positions (Course.slots courses) second.1) ∧
        ∀ leaf ∈ found, leaf.2.isComplete ∧ leaf.2.picks = [] ∧
          leaf.2.raised.entries =
            leaf.1.eraseDups.map fun name => (name, (leaf.1.count name : Int)) := by
  have awaits : Expansion.Awaits Course.choice _ [] _ _ := Expansion.awaits_ofSelectors courses
  obtain ⟨steps, done⟩ := clears_of_awaits awaits List.suffix_rfl
  rw [← Course.slots_eq_map_turns] at done
  have distinctSlots : ∀ slot ∈ Course.slots courses, slot.candidates.Nodup := by
    intro slot member
    obtain ⟨course, inCourses, inSlots⟩ := List.mem_flatMap.1 member
    rw [List.eq_of_mem_replicate inSlots]
    exact distinct course inCourses
  have sequences : (leaves [] (Course.slots courses)).map Prod.fst =
      (Slot.fullPaths [] (Course.slots courses)).map (Slot.names (Course.slots courses)) := by
    rw [leaves, List.map_map]
    rfl
  refine ⟨steps, leaves [] (Course.slots courses), done [] [], ?_, ?_, ?_⟩
  · intro picks
    rw [sequences, Slot.mem_map_names_fullPaths]
  · have ordered := Slot.map_names_fullPaths_pairwise distinctSlots []
    rwa [← sequences, List.pairwise_map] at ordered
  · intro leaf member
    obtain ⟨path, _, rfl⟩ := List.mem_map.1 member
    exact ⟨rfl, rfl, rfl⟩

/-- Two different abilities, a choice that asks for no pick, then one ability that may have been
picked before. -/
theorem finds_full_sequences_three_courses :
    let courses : List Course := [⟨⟨Guid.nil, 2, 1, ""⟩, ["Strength", "Dexterity"]⟩,
      ⟨⟨Guid.nil, 0, 1, ""⟩, ["Charisma"]⟩, ⟨⟨Guid.nil, 1, 2, ""⟩, ["Wisdom", "Strength"]⟩]
    (∀ course ∈ courses, course.candidates.Nodup) ∧
      ∃ steps found,
        run (Course.offered courses) steps
            (start (Expansion.ofSelectors (courses.map Course.selector))) = .ok ⟨[], found⟩ ∧
          ["Dexterity", "Strength", "Strength"] ∈ found.map Prod.fst ∧
          ["Strength", "Strength", "Wisdom"] ∉ found.map Prod.fst := by
  intro courses
  have distinct : ∀ course ∈ courses, course.candidates.Nodup := by decide
  refine ⟨distinct, ?_⟩
  obtain ⟨steps, found, done, all, _, _⟩ := finds_full_sequences courses distinct
  refine ⟨steps, found, done, ?_, ?_⟩
  · rw [all, ← Slot.mem_map_names_fullPaths]
    decide
  · rw [all, ← Slot.mem_map_names_fullPaths]
    decide

end Search

end FeatLoom
