import FeatLoom.Proofs.Weaving.PickTree

/-!
# Known picks

Growth ends at the first pick that has no description, and only abilities have one. So where it
does not end early all picks are abilities, and no name of an ability begins with another one. The
names along two paths from one spot can therefore be told apart although they are joined without
marks of their own: at the first pick that differs the texts differ.
-/

namespace FeatLoom

/-- No ability name begins with another one. -/
theorem EntryDescription.abilityNames_prefixFree : ∀ first ∈ abilityNames, ∀ second ∈ abilityNames,
    first.toList <+: second.toList → first = second := by
  decide

theorem EntryDescription.mem_abilityNames {kind : ListKind} {candidate : String}
    {description : EntryDescription} (found : ofCandidate? kind candidate = some description) :
    candidate ∈ abilityNames := by
  unfold ofCandidate? at found
  split at found
  · obtain ⟨handles, listed, _⟩ := Option.map_eq_some_iff.1 found
    have member := List.lookup_eq_some_iff.1 listed
    obtain ⟨before, after, all, _⟩ := member
    rw [abilityNames, all]
    simp
  · cases found

namespace Weaving

inductive Stage.Known : List Stage → List Nat → Prop
  | nil (stages : List Stage) : Known stages []
  | cons {stage : Stage} {stages : List Stage} {position : Nat} {path : List Nat} {name : String}
      (there : stage.candidates[position]? = some name)
      (ability : name ∈ EntryDescription.abilityNames) (known : Known stages path) :
      Known (stage :: stages) (position :: path)

def Stage.pathText (stages : List Stage) (path : List Nat) : List Char :=
  (List.zipWith Stage.suffix stages path).flatMap String.toList

theorem Stage.pathText_nil (stages : List Stage) : pathText stages [] = [] := by
  rw [pathText, List.zipWith_nil_right, List.flatMap_nil]

theorem Stage.pathText_cons {stage : Stage} {position : Nat} {name : String}
    (there : stage.candidates[position]? = some name) (stages : List Stage) (path : List Nat) :
    pathText (stage :: stages) (position :: path) =
      '_' :: (name.toList ++ '_' :: (stage.supplier.module.normalizedName.toList ++
        pathText stages path)) := by
  have picked : stage.candidates.getD position "" = name := by
    rw [List.getD_eq_getElem?_getD, there, Option.getD_some]
  rw [pathText, List.zipWith_cons_cons, List.flatMap_cons, suffix, picked, pathText]
  simp

theorem Stage.Known.pathText_marked {stages : List Stage} {path : List Nat}
    (known : Known stages path) :
    pathText stages path = [] ∨ ∃ rest, pathText stages path = '_' :: rest := by
  cases known with
  | nil => exact .inl (pathText_nil stages)
  | cons there _ _ => exact .inr ⟨_, pathText_cons there _ _⟩

/-- Where no stage offers a name twice, the text of a path of known picks tells the path. -/
theorem Stage.pathText_injective {stages : List Stage}
    (distinct : ∀ stage ∈ stages, stage.candidates.Nodup) {first second : List Nat}
    (knownFirst : Known stages first) (knownSecond : Known stages second)
    (same : pathText stages first = pathText stages second) : first = second := by
  induction knownFirst generalizing second with
  | nil stages =>
    cases knownSecond with
    | nil => rfl
    | cons there ability known =>
      rw [pathText_cons there, pathText_nil] at same
      cases same
  | @cons stage stages position path name there ability known ih =>
    cases knownSecond with
    | nil =>
      rw [pathText_cons there, pathText_nil] at same
      cases same
    | @cons _ _ position' path' name' there' ability' known' =>
      rw [List.forall_mem_cons] at distinct
      rw [pathText_cons there, pathText_cons there'] at same
      have texts := List.tail_eq_of_cons_eq same
      -- Of two names that begin the same text one begins with the other.
      have names : name = name' := by
        rcases List.prefix_or_prefix_of_prefix (List.prefix_append name.toList _)
          (texts ▸ List.prefix_append name'.toList _) with shorter | longer
        · exact EntryDescription.abilityNames_prefixFree _ ability _ ability' shorter
        · exact (EntryDescription.abilityNames_prefixFree _ ability' _ ability longer).symm
      subst names
      have positions : position = position' := by
        obtain ⟨bound, first⟩ := List.getElem?_eq_some_iff.1 there
        obtain ⟨bound', second⟩ := List.getElem?_eq_some_iff.1 there'
        exact distinct.1.getElem_inj_iff.1 (first.trans second.symm)
      subst positions
      have rest := List.append_cancel_left (List.tail_eq_of_cons_eq (List.append_cancel_left texts))
      rw [ih distinct.2 known' rest]

theorem exists_of_mem {α β : Type} {related : α → β → Prop} {first : List α} {second : List β}
    (all : List.Forall₂ related first second) {a : α} (member : a ∈ first) :
    ∃ b, related a b := by
  induction all with
  | nil => cases member
  | cons one _ ih =>
    rcases List.mem_cons.1 member with rfl | later
    · exact ⟨_, one⟩
    · exact ih later

theorem grow_known {feat : Feat} {limit : Int} {site : Site} {made : List String}
    {items left : List AbilityChoice} {allowed rest : Nat} {tree : Woven}
    (awaits : Expansion.Awaits id site.state made items left)
    (ended : grow feat limit left.length site allowed = (tree, .ok rest)) :
    ∀ path ∈ Slot.pathsFrom made (site.spot made left).slots,
      Stage.Known (site.spot made left).stages path := by
  -- As for the nodes of the tree: the site, the picks that were made and the queue all vary.
  induction left generalizing site made items allowed rest tree with
  | nil =>
    intro path member
    obtain rfl := List.mem_singleton.1 member
    exact .nil _
  | cons turn left ih =>
    cases found : Lookup.supplier? .ability turn.list site.vantage.stack with
    | none =>
      intro path member
      rw [Site.slots_missing found] at member
      obtain rfl := List.mem_singleton.1 member
      exact .nil _
    | some supply =>
      obtain ⟨supplier, candidates⟩ := supply
      have chosen := Site.choice_picks awaits found
      intro path member
      rw [Site.slots_found found, Slot.pathsFrom, List.mem_cons] at member
      rcases member with rfl | member
      · exact .nil _
      obtain ⟨⟨name, position⟩, picked, inside⟩ := List.mem_flatMap.1 member
      obtain ⟨path, inRest, rfl⟩ := List.mem_map.1 inside
      have pickable : Slot.legal made ⟨candidates, turn.max⟩ ≠ [] := List.ne_nil_of_mem picked
      obtain ⟨children, rfl, each⟩ := grow_of_picks_ok chosen (by simpa using pickable) ended
      rw [List.forall₂_map_left_iff] at each
      obtain ⟨child, next, before, after, there, childEnded⟩ := exists_of_mem each picked
      obtain ⟨inList, _⟩ := (Slot.mem_legal ..).1 picked
      have leads : (site.spot made (turn :: left)).Leads ⟨⟨candidates, turn.max⟩, supplier⟩
          position name (next.spot (made ++ [name]) left) := Site.leads_after found inList there
      obtain ⟨pending, awaited⟩ := Site.awaits_after awaits there
      have known := ih awaited childEnded
      rw [Spot.slots, Spot.stages, leads.vantage_eq] at known
      obtain ⟨description, described, _⟩ := Option.map_eq_some_iff.1 there
      have ability := EntryDescription.mem_abilityNames described
      rw [Site.stages_found found]
      exact .cons inList ability (known path inRest)

end Weaving

end FeatLoom
