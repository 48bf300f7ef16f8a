import FeatLoom.Proofs.Lookup
import FeatLoom.Proofs.Weaving.Refinement
import Mathlib.Order.Monotone.Basic

/-!
# Suppliers by depth

Below a root, the module that supplies a pick depends on how many picks come before it and not on
what they are. Each look-up starts at the module that supplied the pick before, so the modules only
go further down the stack; and a module that supplied a list has it, so the look-ups for further
picks of one choice end where they start.
-/

namespace FeatLoom

namespace Woven

def children : Woven → List Woven
  | branch _ children => children
  | _ => []

/-- The nodes at a depth of a tree, in order. -/
def level : Nat → Woven → List Woven
  | 0, tree => [tree]
  | depth + 1, tree => tree.children.flatMap (level depth)

theorem exists_mem_level (tree : Woven) :
    ∀ node ∈ tree.nodes, ∃ depth, node ∈ tree.level depth := by
  intro node member
  cases tree with
  | leaf | deadEnd => exact ⟨0, member⟩
  | branch spell children =>
    rw [nodes, nodesOf_eq_flatMap] at member
    obtain rfl | inside := List.mem_cons.1 member
    · exact ⟨0, List.mem_singleton_self _⟩
    · obtain ⟨child, among, below⟩ := List.mem_flatMap.1 inside
      obtain ⟨depth, there⟩ := exists_mem_level child node below
      exact ⟨depth + 1, List.mem_flatMap.2 ⟨child, among, there⟩⟩
termination_by sizeOf tree
decreasing_by
  have smaller := List.sizeOf_lt_of_mem ‹child ∈ children›
  rw [‹tree = branch spell children›, branch.sizeOf_spec]
  omega

end Woven

namespace Weaving

open Expansion (Awaits turns)

/-! ## The supplier at a depth -/

/-- The module that supplies the last of some number of picks; where a list is missing, or after the
last turn, it stays what it was. -/
def supplierAt (start : Vantage) (left : List AbilityChoice) : Nat → Vantage
  | 0 => start
  | depth + 1 =>
    let above := supplierAt start left depth
    match left[depth]? with
    | none => above
    | some turn =>
      ((Lookup.supplier? .ability turn.list above.stack).map Prod.fst).getD above

section SupplierAt

variable {start supplier : Vantage} {left : List AbilityChoice} {turn : AbilityChoice}
  {depth further : Nat}

theorem supplierAt_found (comes : left[depth]? = some turn) {candidates : List String}
    (found : Lookup.supplier? .ability turn.list (supplierAt start left depth).stack =
      some (supplier, candidates)) : supplierAt start left (depth + 1) = supplier := by
  rw [supplierAt, comes]
  simp only [found, Option.map_some, Option.getD_some]

theorem stack_supplierAt_succ (start : Vantage) (left : List AbilityChoice) (depth : Nat) :
    (supplierAt start left (depth + 1)).stack <:+ (supplierAt start left depth).stack := by
  rw [supplierAt]
  split
  · exact List.suffix_rfl
  · next turn _ =>
    cases found : Lookup.supplier? .ability turn.list (supplierAt start left depth).stack with
    | none => exact List.suffix_rfl
    | some supply =>
      obtain ⟨supplier, candidates⟩ := supply
      exact (Lookup.supplier?_eq_some found).1

theorem stack_supplierAt (start : Vantage) (left : List AbilityChoice) (depth : Nat) :
    (supplierAt start left depth).stack <:+ start.stack := by
  induction depth with
  | zero => exact List.suffix_rfl
  | succ depth ih => exact (stack_supplierAt_succ start left depth).trans ih

/-- From the supplier of a pick, the same list is found as for that pick. -/
theorem supplier?_supplierAt_succ (comes : left[depth]? = some turn) :
    Lookup.supplier? .ability turn.list (supplierAt start left (depth + 1)).stack =
      Lookup.supplier? .ability turn.list (supplierAt start left depth).stack := by
  cases found : Lookup.supplier? .ability turn.list (supplierAt start left depth).stack with
  | none =>
    rw [supplierAt, comes]
    simp only [found, Option.map_none, Option.getD_none]
  | some supply =>
    obtain ⟨supplier, candidates⟩ := supply
    rw [supplierAt_found comes found]
    exact Lookup.supplier?_of_defined (Lookup.supplier?_eq_some found).2

/-- While the turns are of one choice, the same list is found. -/
theorem supplier?_supplierAt_of_turns (later : depth ≤ further)
    (same : ∀ between, depth ≤ between → between < further → left[between]? = some turn) :
    Lookup.supplier? .ability turn.list (supplierAt start left further).stack =
      Lookup.supplier? .ability turn.list (supplierAt start left depth).stack := by
  induction further, later using Nat.le_induction with
  | base => rfl
  | succ further later ih =>
    rw [supplier?_supplierAt_succ (same further later (Nat.lt_succ_self _))]
    exact ih fun between after before => same between after (Nat.lt_succ_of_lt before)

end SupplierAt

/-- The turns between two picks for one choice are turns of that choice. -/
theorem turns_between {left rest : List AbilityChoice} {turn : AbilityChoice}
    {depth further done more : Nat}
    (here : left.drop depth = (turns id (turn :: rest)).drop done)
    (there : left.drop further = (turns id (turn :: rest)).drop more)
    (order : done ≤ more) (underway : more < turn.count) :
    depth ≤ further ∧
      ∀ between, depth ≤ between → between < further → left[between]? = some turn := by
  have size : turn.count ≤ (turns id (turn :: rest)).length := by
    rw [Expansion.turns_cons, List.length_append, List.length_replicate]
    exact Nat.le_add_right _ _
  have lengthHere := congrArg List.length here
  have lengthThere := congrArg List.length there
  rw [List.length_drop, List.length_drop] at lengthHere lengthThere
  refine ⟨by omega, fun between after before => ?_⟩
  obtain ⟨steps, rfl⟩ := Nat.exists_eq_add_of_le after
  have inside : done + steps < (List.replicate (id turn).count turn).length := by
    rw [List.length_replicate, id]
    omega
  rw [← List.getElem?_drop, here, List.getElem?_drop, Expansion.turns_cons,
    List.getElem?_append_left inside]
  exact List.getElem?_replicate_of_lt (by simpa using inside)

/-! ## Going down -/

/-- Sites below a site, by the number of picks between them. -/
inductive Descends (start : Site) : Nat → Site → Prop where
  | here : Descends start 0 start
  | pick {depth : Nat} {site next : Site} {supplier : Vantage} {kind : ListKind}
      {options : List (String × Expansion)} {option : String × Expansion}
      (before : Descends start depth site)
      (chosen : site.choice = .ok (.picks supplier kind options)) (picked : option ∈ options)
      (after : site.after? supplier kind option = some next) : Descends start (depth + 1) next

variable {start site next : Site} {depth : Nat}

theorem Descends.cons {supplier : Vantage} {kind : ListKind} {options : List (String × Expansion)}
    {option : String × Expansion} (chosen : start.choice = .ok (.picks supplier kind options))
    (picked : option ∈ options) (after : start.after? supplier kind option = some next)
    (descends : Descends next depth site) : Descends start (depth + 1) site := by
  induction descends with
  | here => exact .pick .here chosen picked after
  | pick before chosenBelow pickedBelow afterBelow ih =>
    exact .pick ih chosenBelow pickedBelow afterBelow

section Start

variable {made : List String} {items left : List AbilityChoice}
  (awaits : Awaits id start.state made items left)

include awaits

/-- After some number of picks, as many turns are taken, and the supplier is known. -/
theorem Descends.progress (descends : Descends start depth site) :
    (∃ madeThere itemsThere, itemsThere <:+ items ∧
      Awaits id site.state madeThere itemsThere (left.drop depth)) ∧
      site.vantage = supplierAt start.vantage left depth := by
  induction descends with
  | here => exact ⟨⟨made, items, List.suffix_rfl, awaits⟩, rfl⟩
  | @pick depth site next supplier kind options option before chosen picked after ih =>
    obtain ⟨⟨madeThere, itemsThere, suffix, awaited⟩, vantage⟩ := ih
    obtain ⟨turn, rest, turns⟩ := Site.exists_turn_of_picked awaited chosen picked
    rw [turns] at awaited
    obtain ⟨-, candidates, found, each⟩ := Site.picks_of_turn awaited chosen
    obtain ⟨pending, fewer, following⟩ := awaited.pick option.1
    have comes : left[depth]? = some turn := by
      rw [← List.head?_drop, turns]
      rfl
    have rest_eq : left.drop (depth + 1) = rest := by
      rw [← List.tail_drop, turns]
      rfl
    have state : next.state = site.state.pick turn option.1 :=
      (Site.state_after after).trans (each option picked).2
    rw [vantage] at found
    refine ⟨⟨madeThere ++ [option.1], pending, fewer.trans suffix, ?_⟩, ?_⟩
    · rw [rest_eq, state]
      exact following
    · rw [Site.vantage_after after, supplierAt_found comes found]

/-- While the queue has one length, one choice is at its head, and one list is found for it. -/
theorem Descends.found_of_length {turn : AbilityChoice} {further : Nat} {other : Site}
    (descends : Descends start depth site) (too : Descends start further other)
    (length : other.state.pending.length = site.state.pending.length)
    (head : site.state.current? = some (.ability turn)) :
    other.state.current? = some (.ability turn) ∧
      Lookup.supplier? .ability turn.list other.vantage.stack =
        Lookup.supplier? .ability turn.list site.vantage.stack := by
  obtain ⟨⟨made, one, suffix, awaited⟩, vantage⟩ := descends.progress awaits
  obtain ⟨⟨madeToo, two, suffixToo, awaitedToo⟩, vantageToo⟩ := too.progress awaits
  have same : two = one := by
    rw [awaited.pending, awaitedToo.pending, List.length_map, List.length_map] at length
    exact (List.suffix_of_suffix_length_le suffixToo suffix length.le).eq_of_length length
  subst same
  have current : other.state.current? = site.state.current? := by
    rw [Expansion.current?, Expansion.current?, awaited.pending, awaitedToo.pending]
  have first : ∃ rest, two = turn :: rest := by
    rw [Expansion.current?, awaited.pending, List.head?_map] at head
    obtain ⟨item, found, named⟩ := Option.map_eq_some_iff.1 head
    cases named
    exact List.head?_eq_some_iff.1 found
  obtain ⟨rest, rfl⟩ := first
  refine ⟨current.trans head, ?_⟩
  rw [vantage, vantageToo]
  have some := awaited.underway turn rfl
  have someToo := awaitedToo.underway turn rfl
  rcases Nat.le_total site.state.picks.length other.state.picks.length with order | order
  · obtain ⟨later, same⟩ := turns_between awaited.left_eq awaitedToo.left_eq order someToo
    exact supplier?_supplierAt_of_turns later same
  · obtain ⟨later, same⟩ := turns_between awaitedToo.left_eq awaited.left_eq order some
    exact (supplier?_supplierAt_of_turns later same).symm

end Start

theorem exists_pick_of_mem_children {feat : Feat} {limit : Int} {picks allowed : Nat}
    {child : Woven} (member : child ∈ (grow feat limit picks start allowed).1.children) :
    ∃ supplier kind options, start.choice = .ok (.picks supplier kind options) ∧
      ∃ option ∈ options, ∃ next, start.after? supplier kind option = some next ∧
        ∃ fewer left, child = (grow feat limit fewer next left).1 := by
  cases picks with
  | zero =>
    rw [grow, growLeaf] at member
    split at member
    · cases member
    · cases member
  | succ fewer =>
    cases chosen : start.choice with
    | error fault =>
      rw [grow, chosen] at member
      cases member
    | ok choice =>
      cases choice with
      | missing kind list =>
        rw [grow, chosen] at member
        cases member
      | picks supplier kind options =>
        by_cases pickable : options = []
        · rw [grow, chosen, pickable] at member
          cases member
        · rw [grow_of_picks chosen pickable] at member
          have each : ∀ tree ∈ (growEach (growPick feat limit fewer start supplier kind) options
              allowed).1, ∃ option ∈ options, ∃ next,
                start.after? supplier kind option = some next ∧
                  ∃ fewer left, tree = (grow feat limit fewer next left).1 := by
            apply forall_mem_growEach
            intro option picked left tree grown
            obtain ⟨next, after, rfl⟩ := growPick_tree grown
            exact ⟨option, picked, next, after, fewer, left, rfl⟩
          exact ⟨supplier, kind, options, rfl, each child member⟩

/-- Every node of a tree stands for a site as far below the root. -/
theorem exists_descends_of_mem_level {feat : Feat} {limit : Int} {picks allowed : Nat}
    {node : Woven} (member : node ∈ (grow feat limit picks start allowed).1.level depth) :
    ∃ site, Descends start depth site ∧ node.spell.entry.name = site.spellName ∧
      node.spell.module = site.moduleName := by
  induction depth generalizing start picks allowed with
  | zero =>
    obtain rfl := List.mem_singleton.1 member
    exact ⟨start, .here, name_spell_grow .., module_spell_grow ..⟩
  | succ depth ih =>
    obtain ⟨child, inside, below⟩ := List.mem_flatMap.1 member
    obtain ⟨supplier, kind, options, chosen, option, picked, next, after, fewer, left, rfl⟩ :=
      exists_pick_of_mem_children inside
    obtain ⟨site, descends, name, module⟩ := ih below
    exact ⟨site, descends.cons chosen picked after, name, module⟩

end Weaving

namespace Loom

open Weaving

/-- Suppliers depend on depth alone. The modules along a way down from a root stand at positions
that only the number of picks decides, and the positions never go back up. Whatever has been picked,
all picks for one choice come from one list, which its supplier finds again. Every spell that grows
for the root is for the module of its depth, also where growth ends early. -/
theorem suppliers_by_depth (loom : Loom) {index : Nat} {vantage : Vantage} {feat : Feat}
    (root : (Vantage.all loom.modules)[index]? = some vantage) (supported : feat.isSupported) :
    let start := loom.rootSite vantage feat
    (∃ indexAt : Nat → Nat, indexAt 0 = index ∧ Monotone indexAt ∧
      ∀ depth site, Descends start depth site →
        (Vantage.all loom.modules)[indexAt depth]? = some site.vantage) ∧
    (∀ depth site supplier kind options, Descends start depth site → site.state.pending ≠ [] →
      site.choice = .ok (.picks supplier kind options) →
        ∃ turn candidates, site.state.current? = some (.ability turn) ∧
          (∀ option ∈ options, option.1 ∈ candidates) ∧
          Lookup.supplier? kind turn.list supplier.stack = some (supplier, candidates) ∧
          ∀ further other, Descends start further other →
            other.state.pending.length = site.state.pending.length →
              other.state.current? = some (.ability turn) ∧
              Lookup.supplier? kind turn.list other.vantage.stack =
                some (supplier, candidates)) ∧
    ∀ id allowed tree, vantage.module.feat? id = some feat →
      (loom.growRoot id vantage allowed).1 = some (.woven tree) →
        (∀ node ∈ tree.nodes, ∃ depth, node ∈ tree.level depth) ∧
        ∀ depth, ∀ node ∈ tree.level depth, ∃ site, Descends start depth site ∧
          node.spell.entry.name = site.spellName ∧ node.spell.module = site.moduleName := by
  intro start
  obtain ⟨items, awaits⟩ := loom.awaits_rootSite supported vantage
  have whole := Vantage.getElem?_all_eq_some_iff.1 root
  refine ⟨?_, ?_, ?_⟩
  · let stackAt := fun depth => (supplierAt vantage (Expansion.turns id feat.choices) depth).stack
    refine ⟨fun depth => loom.modules.length - (stackAt depth).length, ?_, ?_, ?_⟩
    · have length := congrArg List.length whole
      have some : 0 < vantage.stack.length := Nat.succ_pos _
      rw [List.length_drop] at length
      show loom.modules.length - vantage.stack.length = index
      omega
    · apply monotone_nat_of_le_succ
      intro depth
      exact Nat.sub_le_sub_left (stack_supplierAt_succ _ _ depth).length_le _
    · intro depth site descends
      have suffix : (stackAt depth) <:+ loom.modules :=
        (stack_supplierAt _ _ depth).trans (whole ▸ List.drop_suffix index loom.modules)
      rw [Vantage.getElem?_all_eq_some_iff, (descends.progress awaits).2]
      exact (List.suffix_iff_eq_drop.1 suffix).symm
  · intro depth site supplier kind options descends underway chosen
    obtain ⟨⟨made, there, suffix, awaited⟩, -⟩ := descends.progress awaits
    cases left : (Expansion.turns id feat.choices).drop depth with
    | nil =>
      rw [left] at awaited
      rw [awaited.eq_of_nil] at underway
      exact absurd rfl underway
    | cons turn rest =>
      rw [left] at awaited
      have head := Site.current?_eq awaited
      obtain ⟨rfl, candidates, found, each⟩ := Site.picks_of_turn awaited chosen
      refine ⟨turn, candidates, head, fun option picked => (each option picked).1, ?_, ?_⟩
      · exact Lookup.supplier?_of_defined (Lookup.supplier?_eq_some found).2
      · intro further other too length
        obtain ⟨current, same⟩ := descends.found_of_length awaits too length head
        exact ⟨current, same.trans found⟩
  · intro id allowed tree defined grown
    have own : tree = (grow feat loom.limit start.state.picksLeft start allowed).1 := by
      rw [growRoot, defined] at grown
      simp only [supported, if_true] at grown
      exact (Root.woven.inj (Option.some.inj grown)).symm
    refine ⟨tree.exists_mem_level, fun depth node member => ?_⟩
    rw [own] at member
    exact exists_descends_of_mem_level member

/-- The first list is in the middle and at the bottom, the second one at the bottom only. No leaf is
allowed, so growth ends at the only one. -/
theorem suppliers_by_depth_three :
    let first := Guid.ofNat 1
    let second := Guid.ofNat 2
    let selectors := [Selector.ability ⟨first, 2, 2, ""⟩, .ability ⟨second, 1, 1, ""⟩]
    let feat : Feat := { id := Guid.nil, name := "Gift", selectors }
    let upper : Module := { name := some "Upper", feats := [feat] }
    let middle : Module :=
      { name := some "Middle", lists := .ofList [(.ability, .ofList [(first, ["Strength"])])] }
    let wisdom := OrderedMap.ofList [(first, ["Wisdom"]), (second, ["Wisdom"])]
    let lower : Module := { name := some "Lower", lists := .ofList [(.ability, wisdom)] }
    let loom : Loom := { modules := [upper, middle, lower], limit := 0 }
    let vantage : Vantage := ⟨upper, [middle, lower]⟩
    let start := loom.rootSite vantage feat
    (Vantage.all loom.modules)[0]? = some vantage ∧ feat.isSupported ∧
      ∃ indexAt : Nat → Nat, indexAt 0 = 0 ∧ Monotone indexAt ∧
        ∃ site, Descends start 3 site ∧ site.moduleName = "Lower" ∧
          (Vantage.all loom.modules)[indexAt 3]? = some site.vantage := by
  intro first second selectors feat upper middle wisdom lower loom vantage start
  have root : (Vantage.all loom.modules)[0]? = some vantage := rfl
  have supported : feat.isSupported := by decide
  obtain ⟨⟨indexAt, zero, monotone, along⟩, -, spells⟩ := suppliers_by_depth loom root supported
  let tree := (grow feat loom.limit 3 start 0).1
  have grown : (loom.growRoot feat.id vantage 0).1 = some (.woven tree) := rfl
  have modules : (tree.level 3).map (fun node => node.spell.module) = ["Lower"] := by decide
  obtain ⟨node, below, named⟩ := List.map_eq_singleton_iff.1 modules
  obtain ⟨site, descends, -, module⟩ :=
    (spells feat.id 0 tree rfl grown).2 3 node (below ▸ List.mem_singleton_self node)
  exact ⟨root, supported, indexAt, zero, monotone, site, descends, module ▸ named,
    along 3 site descends⟩

end Loom

end FeatLoom
