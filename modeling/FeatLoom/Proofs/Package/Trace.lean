import FeatLoom.Proofs.OrderedMap
import FeatLoom.Proofs.Package.Change

/-!
# Changes that leave no trace

Some changes write over what others wrote, and feats and dependencies are only ever added. Where a
snapshot has already what a change writes over, the change can be put off behind others, and it
comes to nothing as soon as one of them writes over it. So what changes leave behind can be seen
from those that no later one writes over.
-/

namespace FeatLoom

namespace Change

/-- A change writes over what another one wrote. Additions are never written over. -/
inductive Overwrites : Change → Change → Prop
  | id (new old : Guid) : Overwrites (setId new) (setId old)
  | name (new old : String) : Overwrites (setName new) (setName old)
  | version (new old : Version) : Overwrites (setVersion new) (setVersion old)
  | description {new old : FeatDescription} (same : new.feat = old.feat) :
      Overwrites (setDescription new) (setDescription old)
  | category (kind : ListKind) : Overwrites (openCategory kind) (openCategory kind)
  | list (kind : ListKind) (key : Guid) (new old : List String) :
      Overwrites (setList kind key new) (setList kind key old)
  | stat {new old : StatEntry} (same : new.name = old.name) :
      Overwrites (setStat new) (setStat old)

/-- What a change writes over is there. -/
def Finds (m : Module) : Change → Prop
  | setId _ => True
  | setName _ => True
  | setVersion _ => True
  | addDependency _ => False
  | addFeat _ => False
  | setDescription description => description.feat ∈ m.descriptions.keys
  | openCategory kind => kind ∈ m.lists.keys
  | setList kind key _ => ∃ lists, m.lists.get? kind = some lists ∧ key ∈ lists.keys
  | setStat entry => entry.name ∈ m.stats.keys

variable {m : Module} {change earlier later : Change}

theorem Overwrites.trans {last : Change} (first : later.Overwrites earlier)
    (second : last.Overwrites later) : last.Overwrites earlier := by
  cases first with
  | id =>
    cases second
    exact .id ..
  | name =>
    cases second
    exact .name ..
  | version =>
    cases second
    exact .version ..
  | description same =>
    cases second with
    | description sameAgain => exact .description (sameAgain.trans same)
  | category => exact second
  | list =>
    cases second
    exact .list ..
  | stat same =>
    cases second with
    | stat sameAgain => exact .stat (sameAgain.trans same)

theorem Overwrites.apply_apply (overwrites : later.Overwrites earlier) :
    later.apply (earlier.apply m) = later.apply m := by
  cases overwrites with
  | id | name | version => rfl
  | description same =>
    simp only [apply, OrderedMap.insert, same, OrderedMap.alter_alter]
  | category kind => simp only [apply, OrderedMap.ensure, OrderedMap.alter_alter, Option.getD_some]
  | list kind key =>
    simp only [apply, OrderedMap.alter_alter, OrderedMap.insert, Option.getD_some]
  | stat same => simp only [apply, OrderedMap.insert, same, OrderedMap.alter_alter]

theorem apply_openCategory {kind : ListKind} (known : kind ∈ m.lists.keys) :
    (openCategory kind).apply m = m := by
  obtain ⟨lists, found⟩ := Option.isSome_iff_exists.1 ((m.lists.contains_iff kind).2 known)
  have kept : m.lists.ensure kind OrderedMap.empty = m.lists := m.lists.alter_eq_self found rfl
  rw [apply, kept]

theorem Finds.stays (finds : earlier.Finds m) (later : Change) : earlier.Finds (later.apply m) := by
  cases earlier with
  | setId | setName | setVersion => trivial
  | addDependency | addFeat => exact finds
  | setDescription =>
    cases later with
    | setDescription => exact (OrderedMap.mem_keys_alter _).2 (Or.inl finds)
    | _ => exact finds
  | openCategory =>
    cases later with
    | openCategory | setList => exact (OrderedMap.mem_keys_alter _).2 (Or.inl finds)
    | _ => exact finds
  | setList kind key =>
    obtain ⟨lists, found, known⟩ := finds
    cases later with
    | openCategory other =>
      refine ⟨lists, ?_, known⟩
      rw [apply, OrderedMap.ensure, OrderedMap.get?_alter]
      split
      · next same => rw [same, found, Option.getD_some]
      · exact found
    | setList other otherKey candidates =>
      by_cases same : other = kind
      · subst same
        refine ⟨lists.insert otherKey candidates, ?_, (lists.mem_keys_alter).2 (Or.inl known)⟩
        rw [apply, OrderedMap.get?_alter, if_pos rfl, found, Option.getD_some]
      · exact ⟨lists, by rw [apply, OrderedMap.get?_alter, if_neg same, found], known⟩
    | _ => exact ⟨lists, found, known⟩
  | setStat =>
    cases later with
    | setStat => exact (OrderedMap.mem_keys_alter _).2 (Or.inl finds)
    | _ => exact finds

/-- A change that finds what it writes over can be put off behind one that does not write over
it. -/
theorem Finds.comm (finds : earlier.Finds m) (keeps : ¬ later.Overwrites earlier) :
    later.apply (earlier.apply m) = earlier.apply (later.apply m) := by
  cases earlier with
  | setId => cases later <;> first | rfl | exact absurd (.id ..) keeps
  | setName => cases later <;> first | rfl | exact absurd (.name ..) keeps
  | setVersion => cases later <;> first | rfl | exact absurd (.version ..) keeps
  | addDependency | addFeat => cases finds
  | setDescription old =>
    cases later with
    | setDescription new =>
      have different : old.feat ≠ new.feat := fun same => keeps (.description same.symm)
      simp only [apply, OrderedMap.insert, OrderedMap.alter_comm _ different finds]
    | _ => rfl
  | openCategory kind => rw [apply_openCategory finds, apply_openCategory (finds.stays later)]
  | setList kind key =>
    obtain ⟨lists, found, known⟩ := finds
    have isKind := m.lists.mem_keys_of_get? found
    cases later with
    | openCategory other =>
      by_cases same : kind = other
      · subst same
        rw [apply_openCategory isKind, apply_openCategory]
        exact (OrderedMap.mem_keys_alter _).2 (Or.inl isKind)
      · simp only [apply, OrderedMap.ensure, OrderedMap.alter_comm _ same isKind]
    | setList other otherKey =>
      by_cases same : kind = other
      · subst same
        have different : key ≠ otherKey := by
          rintro rfl
          exact keeps (.list ..)
        simp only [apply, OrderedMap.alter_alter, Option.getD_some]
        refine congrArg (fun lists => { m with lists }) (m.lists.alter_congr ?_)
        rw [found, Option.getD_some]
        exact lists.alter_comm different known _ _
      · simp only [apply, OrderedMap.alter_comm _ same isKind]
    | _ => rfl
  | setStat old =>
    cases later with
    | setStat new =>
      have different : old.name ≠ new.name := fun same => keeps (.stat same.symm)
      simp only [apply, OrderedMap.insert, OrderedMap.alter_comm _ different finds]
    | _ => rfl

theorem Overwrites.finds (overwrites : later.Overwrites earlier) (kept : later.apply m = m) :
    earlier.Finds m := by
  cases overwrites with
  | id | name | version => trivial
  | description same =>
    rw [Finds, ← same, ← kept]
    exact (OrderedMap.mem_keys_alter _).2 (Or.inr rfl)
  | category =>
    rw [Finds, ← kept]
    exact (OrderedMap.mem_keys_alter _).2 (Or.inr rfl)
  | list kind key new =>
    refine ⟨((m.lists.get? kind).getD OrderedMap.empty).insert key new, ?_, ?_⟩
    · conv_lhs => rw [← kept]
      rw [apply, OrderedMap.get?_alter, if_pos rfl]
    · exact (OrderedMap.mem_keys_alter _).2 (Or.inr rfl)
  | stat same =>
    rw [Finds, ← same, ← kept]
    exact (OrderedMap.mem_keys_alter _).2 (Or.inr rfl)

/-! ## Traces -/

/-- A change among some that no later one writes over. -/
def Lasts (changes : List Change) (change : Change) : Prop :=
  ∃ before after, changes = before ++ change :: after ∧ ∀ later ∈ after, ¬ later.Overwrites change

theorem Lasts.cons {changes : List Change} (lasts : Lasts changes change) (first : Change) :
    Lasts (first :: changes) change := by
  obtain ⟨before, after, whole, keeps⟩ := lasts
  exact ⟨first :: before, after, by rw [whole, List.cons_append], keeps⟩

theorem exists_lasts_overwrites {changes : List Change} (member : later ∈ changes)
    (overwrites : later.Overwrites earlier) :
    ∃ last, Lasts changes last ∧ last.Overwrites earlier := by
  induction changes generalizing later with
  | nil => cases member
  | cons first rest ih =>
    by_cases again : ∃ next ∈ rest, next.Overwrites earlier
    · obtain ⟨next, inRest, more⟩ := again
      obtain ⟨last, lasts, found⟩ := ih inRest more
      exact ⟨last, lasts.cons first, found⟩
    · rcases List.mem_cons.1 member with rfl | inRest
      · have lasts : Lasts (later :: rest) later :=
          ⟨[], rest, rfl, fun next inRest more => again ⟨next, inRest, overwrites.trans more⟩⟩
        exact ⟨later, lasts, overwrites⟩
      · exact absurd ⟨later, inRest, overwrites⟩ again

theorem applyAll_apply_of_overwritten {changes : List Change} (member : later ∈ changes)
    (overwrites : later.Overwrites earlier) (finds : earlier.Finds m) :
    applyAll (earlier.apply m) changes = applyAll m changes := by
  induction changes generalizing m with
  | nil => cases member
  | cons first rest ih =>
    change applyAll (first.apply (earlier.apply m)) rest = applyAll (first.apply m) rest
    by_cases again : first.Overwrites earlier
    · rw [again.apply_apply]
    · rw [finds.comm again]
      refine ih ?_ (finds.stays first)
      rcases List.mem_cons.1 member with rfl | inRest
      · exact absurd overwrites again
      · exact inRest

theorem applyAll_eq_self {changes : List Change}
    (kept : ∀ change, Lasts changes change → change.apply m = m) : applyAll m changes = m := by
  induction changes with
  | nil => rfl
  | cons first rest ih =>
    have rest_kept := ih fun change lasts => kept change (lasts.cons first)
    change applyAll (first.apply m) rest = m
    by_cases overwritten : ∃ later ∈ rest, later.Overwrites first
    · obtain ⟨later, member, overwrites⟩ := overwritten
      obtain ⟨last, lasts, again⟩ := exists_lasts_overwrites member overwrites
      have finds := again.finds (kept last (lasts.cons first))
      rw [applyAll_apply_of_overwritten member overwrites finds, rest_kept]
    · have lasts : Lasts (first :: rest) first :=
        ⟨[], rest, rfl, fun later member overwrites => overwritten ⟨later, member, overwrites⟩⟩
      rw [kept first lasts, rest_kept]

def extent (m : Module) : Nat := m.feats.length + m.dependencies.length

theorem extent_le_apply (m : Module) (change : Change) : extent m ≤ extent (change.apply m) := by
  cases change <;> simp [extent, apply]

theorem extent_le_applyAll (m : Module) (changes : List Change) :
    extent m ≤ extent (applyAll m changes) := by
  induction changes generalizing m with
  | nil => exact Nat.le_refl _
  | cons first rest ih => exact Nat.le_trans (extent_le_apply m first) (ih _)

theorem overwrites_self_or_extent_lt (change : Change) :
    change.Overwrites change ∨ ∀ m, extent m < extent (change.apply m) := by
  cases change with
  | setId => exact Or.inl (.id ..)
  | setName => exact Or.inl (.name ..)
  | setVersion => exact Or.inl (.version ..)
  | addDependency => exact Or.inr fun m => by simp [extent, apply]
  | addFeat => exact Or.inr fun m => by simp [extent, apply]
  | setDescription => exact Or.inl (.description rfl)
  | openCategory => exact Or.inl (.category ..)
  | setList => exact Or.inl (.list ..)
  | setStat => exact Or.inl (.stat rfl)

theorem apply_applyAll_of_lasts {changes : List Change} (kept : change.apply m = m)
    (self : change.Overwrites change) (keeps : ∀ later ∈ changes, ¬ later.Overwrites change) :
    change.apply (applyAll m changes) = applyAll m changes := by
  induction changes generalizing m with
  | nil => exact kept
  | cons first rest ih =>
    refine ih ?_ fun later member => keeps later (List.mem_cons_of_mem first member)
    rw [← (self.finds kept).comm (keeps first List.mem_cons_self), kept]

/-- Changes leave a snapshot as it is if and only if each of them does that no later one writes
over. -/
theorem applyAll_eq_self_iff {changes : List Change} :
    applyAll m changes = m ↔ ∀ change, Lasts changes change → change.apply m = m := by
  refine ⟨?_, applyAll_eq_self⟩
  rintro kept change ⟨before, after, rfl, keeps⟩
  rw [applyAll_append] at kept
  change applyAll (change.apply (applyAll m before)) after = m at kept
  rcases change.overwrites_self_or_extent_lt with self | grows
  · rw [← kept]
    exact apply_applyAll_of_lasts self.apply_apply self keeps
  · have first := extent_le_applyAll m before
    have last := extent_le_applyAll (change.apply (applyAll m before)) after
    have middle := grows (applyAll m before)
    rw [kept] at last
    omega

end Change
end FeatLoom
