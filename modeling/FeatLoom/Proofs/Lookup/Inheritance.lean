import FeatLoom.Proofs.Lookup
import FeatLoom.Proofs.OrderedMap
import FeatLoom.Proofs.StatEntry.Recovery
import Mathlib.Data.List.Perm.Subperm

/-!
# Inheritance of stat entries

From a name one is led along parents, each looked for in the whole stack again, until a name is
empty, has no definition or has come before. The references may run in circles: once a name has come
before, all that follows has. A field is found in the first entry on this line that has it, and
only where no entry has it before the line ends is there none.
-/

namespace FeatLoom.Lookup

/-- The definition that counts: it is the one of the nearest module that defines the name. -/
def Defines (modules : List Module) (name : String) (entry : StatEntry) : Prop :=
  ∃ above m below, modules = above ++ m :: below ∧ m.stats.get? name = some entry ∧
    ∀ other ∈ above, other.stats.get? name = none

/-- The entries that one comes by on the way along parents, each with the name that leads to it,
and the name that one is led to. -/
inductive Leads (modules : List Module) : String → List (String × StatEntry) → String → Prop where
  | here (name : String) : Leads modules name [] name
  | on {name last : String} {entry : StatEntry} {passed : List (String × StatEntry)}
      (named : name ≠ "") (defined : Defines modules name entry)
      (onward : Leads modules (entry.parent.getD "") passed last) :
      Leads modules name ((name, entry) :: passed) last

def IsEnd (modules : List Module) (passed : List (String × StatEntry)) (last : String) : Prop :=
  last = "" ∨ (∀ entry, ¬ Defines modules last entry) ∨ last ∈ passed.map Prod.fst

/-- The first entry on the line of a name that has a key has these values there. -/
def Inherits (modules : List Module) (name key : String) (values : List String) : Prop :=
  ∃ passed last entry, Leads modules name passed last ∧ (∀ e ∈ passed, e.2.get? key = none) ∧
    last ≠ "" ∧ Defines modules last entry ∧ entry.get? key = some values

/-- The line of a name ends before there is an entry that has a key. -/
def Lacks (modules : List Module) (name key : String) : Prop :=
  ∃ passed last, Leads modules name passed last ∧ (∀ e ∈ passed, e.2.get? key = none) ∧
    IsEnd modules passed last

def HasIcon (modules : List Module) (passive icon : String) : Prop :=
  icon ≠ "" ∧ ∃ more, Inherits modules passive "Icon" (icon :: more)

variable {modules : List Module} {name last : String} {passed : List (String × StatEntry)}

/-! ## Definitions -/

theorem stat?_eq_some_iff {entry : StatEntry} :
    stat? modules name = some entry ↔ Defines modules name entry :=
  List.findSome?_eq_some_iff

theorem Defines.unique {entry other : StatEntry} (defined : Defines modules name entry)
    (also : Defines modules name other) : entry = other :=
  Option.some.inj ((stat?_eq_some_iff.2 defined).symm.trans (stat?_eq_some_iff.2 also))

theorem not_defines_iff : (∀ entry, ¬ Defines modules name entry) ↔ stat? modules name = none := by
  rw [Option.eq_none_iff_forall_ne_some]
  exact forall_congr' fun entry => not_congr stat?_eq_some_iff.symm

theorem mem_statNames_iff :
    name ∈ statNames modules ↔ name ≠ "" ∧ ∃ entry, Defines modules name entry := by
  have defined : (∃ m ∈ modules, name ∈ m.stats.keys) ↔ ∃ entry, Defines modules name entry := by
    rw [← not_iff_not, not_exists, not_exists, not_defines_iff, stat?_eq_none_iff]
    simp only [OrderedMap.get?_eq_none_iff, not_and]
  rw [statNames, List.mem_eraseDups, List.mem_filter, List.mem_flatMap, defined, and_comm,
    decide_eq_true_eq]

/-! ## Lines -/

theorem Leads.defines (line : Leads modules name passed last) :
    ∀ e ∈ passed, Defines modules e.1 e.2 := by
  induction line with
  | here => exact fun e member => absurd member List.not_mem_nil
  | on _ defined _ ih => exact List.forall_mem_cons.2 ⟨defined, ih⟩

theorem Leads.concat {entry : StatEntry} (line : Leads modules name passed last)
    (named : last ≠ "") (defined : Defines modules last entry) :
    Leads modules name (passed ++ [(last, entry)]) (entry.parent.getD "") := by
  induction line with
  | here => exact .on named defined (.here _)
  | on named' defined' _ ih => exact .on named' defined' (ih named defined)

theorem Leads.split {before after : List (String × StatEntry)}
    (line : Leads modules name (before ++ after) last) :
    ∃ between, Leads modules name before between ∧ Leads modules between after last := by
  induction before generalizing name with
  | nil => exact ⟨name, .here name, line⟩
  | cons e before ih =>
    obtain _ | ⟨named, defined, onward⟩ := line
    obtain ⟨between, first, second⟩ := ih onward
    exact ⟨between, .on named defined first, second⟩

/-- Of two lines from a name one goes on where the other stops. -/
theorem Leads.comparable {last' : String} {passed' : List (String × StatEntry)}
    (line : Leads modules name passed last) (line' : Leads modules name passed' last') :
    (∃ more, passed' = passed ++ more ∧ Leads modules last more last') ∨
      ∃ more, passed = passed' ++ more ∧ Leads modules last' more last := by
  induction line generalizing passed' with
  | here => exact Or.inl ⟨passed', rfl, line'⟩
  | on named defined onward ih =>
    cases line' with
    | here => exact Or.inr ⟨_, rfl, .on named defined onward⟩
    | on _ defined' onward' =>
      obtain rfl := defined.unique defined'
      rcases ih onward' with ⟨more, rfl, rest⟩ | ⟨more, rfl, rest⟩
      · exact Or.inl ⟨more, rfl, rest⟩
      · exact Or.inr ⟨more, rfl, rest⟩

theorem Leads.name_mem (line : Leads modules name passed last) :
    name ∈ passed.map Prod.fst ∨ name = last := by
  cases line with
  | here => exact Or.inr rfl
  | on => exact Or.inl List.mem_cons_self

theorem Leads.parent_mem (line : Leads modules name passed last) :
    ∀ e ∈ passed, e.2.parent.getD "" ∈ passed.map Prod.fst ∨ e.2.parent.getD "" = last := by
  induction line with
  | here => exact fun e member => absurd member List.not_mem_nil
  | on _ _ onward ih =>
    rw [List.forall_mem_cons]
    constructor
    · exact onward.name_mem.imp_left (List.mem_cons_of_mem _)
    · exact fun e member => (ih e member).imp_left (List.mem_cons_of_mem _)

/-- Where a line has come back to one of its names, it leads to nothing new. -/
theorem Leads.circles {start stop : String} {more : List (String × StatEntry)}
    (line : Leads modules name passed last) (back : last ∈ passed.map Prod.fst)
    (further : Leads modules start more stop) (known : start ∈ passed.map Prod.fst) :
    ∀ e ∈ more, e ∈ passed := by
  induction further with
  | here => exact fun e member => absurd member List.not_mem_nil
  | on _ defined _ ih =>
    obtain ⟨e, member, rfl⟩ := List.mem_map.1 known
    obtain rfl := defined.unique (line.defines e member)
    rw [List.forall_mem_cons]
    refine ⟨member, ih ?_⟩
    rcases line.parent_mem e member with onLine | atLast
    · exact onLine
    · exact atLast ▸ back

theorem IsEnd.back {stop : String} {more : List (String × StatEntry)}
    (ends : IsEnd modules passed last) (further : Leads modules last more stop) (goes : more ≠ []) :
    last ∈ passed.map Prod.fst := by
  cases further with
  | here => exact absurd rfl goes
  | on named defined =>
    exact (ends.resolve_left named).resolve_left fun undefined => undefined _ defined

/-! ## The search -/

/-- A line on which the key is missing ends before the entry that is found. -/
theorem Inherits.exists_more {key : String} {values : List String}
    (inherits : Inherits modules name key values) (line : Leads modules name passed last)
    (lacking : ∀ e ∈ passed, e.2.get? key = none) :
    ∃ more first entry, Leads modules last (more ++ [(first, entry)]) (entry.parent.getD "") ∧
      (∀ e ∈ more, e.2.get? key = none) ∧ entry.get? key = some values := by
  obtain ⟨before, first, entry, line', lacking', named, defined, found⟩ := inherits
  rcases line.comparable (line'.concat named defined) with ⟨more, whole, rest⟩ | ⟨more, rfl, _⟩
  · rcases List.eq_nil_or_concat more with rfl | ⟨more, e, rfl⟩
    · have member : (first, entry) ∈ passed := by
        rw [← List.append_nil passed, ← whole]
        exact List.mem_append_right before List.mem_cons_self
      rw [lacking _ member] at found
      cases found
    · rw [List.concat_eq_append, ← List.append_assoc] at whole
      obtain ⟨rfl, same⟩ := List.append_inj' whole rfl
      obtain rfl := List.singleton_inj.1 same
      rw [List.concat_eq_append] at rest
      exact ⟨more, first, entry, rest, (List.forall_mem_append.1 lacking').2, found⟩
  · have member : (first, entry) ∈ before ++ [(first, entry)] ++ more := by simp
    rw [lacking _ member] at found
    cases found

theorem Inherits.unique {key : String} {values values' : List String}
    (inherits : Inherits modules name key values) (also : Inherits modules name key values') :
    values = values' := by
  obtain ⟨passed, last, entry, line, lacking, _, defined, found⟩ := also
  obtain ⟨more, first, entry', further, lacking', found'⟩ := inherits.exists_more line lacking
  cases more with
  | nil =>
    obtain _ | ⟨_, defined', _⟩ := further
    obtain rfl := defined.unique defined'
    exact Option.some.inj (found'.symm.trans found)
  | cons e more =>
    obtain _ | ⟨_, defined', _⟩ := further
    obtain rfl := defined.unique defined'
    rw [lacking' _ List.mem_cons_self] at found
    cases found

theorem Inherits.not_lacks {key : String} {values : List String}
    (inherits : Inherits modules name key values) : ¬ Lacks modules name key := by
  rintro ⟨passed, last, line, lacking, ends⟩
  obtain ⟨more, first, entry, further, _, found⟩ := inherits.exists_more line lacking
  have back : last ∈ passed.map Prod.fst := ends.back further (by simp)
  have known : (first, entry) ∈ passed := line.circles back further back _ (by simp)
  rw [lacking _ known] at found
  cases found

/-- The ancestry goes along a line as long as names are open. -/
theorem exists_leads_of_open {opens : List String} (named : "" ∉ opens) :
    ∃ passed last, Leads modules name passed last ∧ (passed.map Prod.fst).Nodup ∧
      passed.map Prod.fst ⊆ opens ∧ ancestry modules opens name = passed.map Prod.snd ∧
      (last ∈ opens → stat? modules last = none ∨ last ∈ passed.map Prod.fst) := by
  induction opens, name using ancestry.induct modules with
  | case1 opens name isOpen undefined =>
    refine ⟨[], name, .here name, List.nodup_nil, List.nil_subset opens, ?_, fun _ => .inl undefined⟩
    rw [ancestry, dif_pos isOpen, undefined]
    rfl
  | case2 opens name isOpen entry defined ih =>
    obtain ⟨passed, last, line, nodup, within, whole, ends⟩ :=
      ih fun member => named (List.mem_filter.1 member).1
    -- The rest of the line keeps to names that are open after this one, so none comes twice.
    have closed : ∀ other, other ∈ close name opens ↔ other ∈ opens ∧ other ≠ name := by
      simp [close]
    have fresh : name ∉ passed.map Prod.fst := fun member => ((closed name).1 (within member)).2 rfl
    refine ⟨(name, entry) :: passed, last, ?_, List.nodup_cons.2 ⟨fresh, nodup⟩, ?_, ?_, ?_⟩
    · exact .on (fun empty => named (empty ▸ isOpen)) (stat?_eq_some_iff.1 defined) line
    · exact List.cons_subset.2 ⟨isOpen, fun other member => ((closed other).1 (within member)).1⟩
    · rw [ancestry, dif_pos isOpen, defined, List.map_cons]
      exact congrArg _ whole
    · intro lastOpen
      by_cases back : last = name
      · exact .inr (back ▸ List.mem_cons_self)
      · exact (ends ((closed last).2 ⟨lastOpen, back⟩)).imp_right (List.mem_cons_of_mem _)
  | case3 opens name isClosed =>
    refine ⟨[], name, .here name, List.nodup_nil, List.nil_subset opens, ?_, fun isOpen => ?_⟩
    · rw [ancestry, dif_neg isClosed]
      rfl
    · exact absurd isOpen isClosed

variable (modules name) in
theorem exists_leads : ∃ passed last, Leads modules name passed last ∧
    (passed.map Prod.fst).Nodup ∧ passed.map Prod.fst ⊆ statNames modules ∧
    ancestry modules (statNames modules) name = passed.map Prod.snd ∧
    IsEnd modules passed last := by
  have named : "" ∉ statNames modules := fun member => (mem_statNames_iff.1 member).1 rfl
  obtain ⟨passed, last, line, nodup, within, whole, ends⟩ := exists_leads_of_open named
  refine ⟨passed, last, line, nodup, within, whole, ?_⟩
  by_cases known : last ∈ statNames modules
  · exact .inr ((ends known).imp_left not_defines_iff.2)
  · rw [mem_statNames_iff, not_and, not_exists] at known
    exact or_iff_not_imp_left.2 fun nonempty => .inl (known nonempty)

variable {key : String}

theorem inherits_of_statField? {values : List String}
    (found : statField? modules name key = some values) : Inherits modules name key values := by
  obtain ⟨passed, last, line, _, _, whole, _⟩ := exists_leads modules name
  rw [statField?, whole, List.findSome?_map] at found
  obtain ⟨before, e, after, rfl, got, lacking⟩ := List.findSome?_eq_some_iff.1 found
  obtain ⟨between, toEntry, onward⟩ := line.split
  obtain _ | ⟨named, defined, _⟩ := onward
  exact ⟨before, between, _, toEntry, lacking, named, defined, got⟩

theorem lacks_of_statField? (missing : statField? modules name key = none) :
    Lacks modules name key := by
  obtain ⟨passed, last, line, _, _, whole, ends⟩ := exists_leads modules name
  rw [statField?, whole, List.findSome?_map, List.findSome?_eq_none_iff] at missing
  exact ⟨passed, last, line, missing, ends⟩

theorem statField?_eq_some_iff {values : List String} :
    statField? modules name key = some values ↔ Inherits modules name key values := by
  refine ⟨inherits_of_statField?, fun inherits => ?_⟩
  cases found : statField? modules name key with
  | none => exact absurd (lacks_of_statField? found) inherits.not_lacks
  | some other => rw [inherits.unique (inherits_of_statField? found)]

theorem statField?_eq_none_iff : statField? modules name key = none ↔ Lacks modules name key := by
  refine ⟨lacks_of_statField?, fun lacks => ?_⟩
  cases found : statField? modules name key with
  | none => rfl
  | some values => exact absurd lacks (inherits_of_statField? found).not_lacks

/-! ## Icons -/

theorem Inherits.values_ne {values : List String}
    (built : ∀ m ∈ modules, ∀ field ∈ m.stats.entries, StatEntry.Built field.2)
    (inherits : Inherits modules name key values) : values ≠ [] ∧ "" ∉ values := by
  obtain ⟨_, last, entry, _, _, _, ⟨above, m, below, rfl, defined, _⟩, found⟩ := inherits
  have made : StatEntry.Built entry :=
    built m (by simp) (last, entry) ((OrderedMap.get?_eq_some_iff ..).1 defined)
  exact made.values_ne (key, values) ((OrderedMap.get?_eq_some_iff ..).1 found)

theorem passiveIcon?_eq_some_iff {icon : String} :
    passiveIcon? modules name = some icon ↔ HasIcon modules name icon := by
  rw [passiveIcon?, Option.filter_eq_some_iff, Option.bind_eq_some_iff, and_comm, HasIcon,
    decide_eq_true_eq]
  refine and_congr_right fun _ => ⟨?_, ?_⟩
  · rintro ⟨values, found, first⟩
    obtain ⟨more, rfl⟩ := List.head?_eq_some_iff.1 first
    exact ⟨more, statField?_eq_some_iff.1 found⟩
  · rintro ⟨more, inherits⟩
    exact ⟨icon :: more, statField?_eq_some_iff.2 inherits, rfl⟩

theorem passiveIcon?_eq_none_iff :
    passiveIcon? modules name = none ↔ ∀ icon, ¬ HasIcon modules name icon := by
  rw [Option.eq_none_iff_forall_ne_some]
  exact forall_congr' fun icon => not_congr passiveIcon?_eq_some_iff

theorem icon_cases (modules : List Module) (passives : List String) :
    (∃ before passive after, passives = before ++ passive :: after ∧
      HasIcon modules passive (icon modules passives) ∧
      ∀ other ∈ before, ∀ icon, ¬ HasIcon modules other icon) ∨
    (∀ passive ∈ passives, ∀ icon, ¬ HasIcon modules passive icon) ∧
      icon modules passives = genericIcon := by
  unfold icon
  cases found : passives.findSome? (passiveIcon? modules) with
  | none =>
    refine .inr ⟨fun passive member => ?_, rfl⟩
    exact passiveIcon?_eq_none_iff.1 (List.findSome?_eq_none_iff.1 found passive member)
  | some icon =>
    obtain ⟨before, passive, after, whole, has, none⟩ := List.findSome?_eq_some_iff.1 found
    refine .inl ⟨before, passive, after, whole, passiveIcon?_eq_some_iff.1 has, ?_⟩
    exact fun other member => passiveIcon?_eq_none_iff.1 (none other member)

/-- Whatever parents entries have, the line from a name ends after entries of different names, and
a field is found in the first entry on the line that has it. The icon of a feat is that of the first
passive with an icon; a passive without one has no entry with the field on its line at all. -/
theorem inheritance_resolves (modules : List Module) :
    (∀ name, ∃ passed last, Leads modules name passed last ∧ IsEnd modules passed last ∧
      (passed.map Prod.fst).Nodup ∧ passed.length ≤ (statNames modules).length ∧
      ancestry modules (statNames modules) name = passed.map Prod.snd) ∧
    (∀ name key values,
      statField? modules name key = some values ↔ Inherits modules name key values) ∧
    (∀ name key, statField? modules name key = none ↔ Lacks modules name key) ∧
    (∀ feat : Feat,
      (∃ before passive after, feat.passives = before ++ passive :: after ∧
        HasIcon modules passive (describeFeat modules feat).icon ∧
        ∀ other ∈ before, ∀ icon, ¬ HasIcon modules other icon) ∨
      (∀ passive ∈ feat.passives, ∀ icon, ¬ HasIcon modules passive icon) ∧
        (describeFeat modules feat).icon = genericIcon) ∧
    ((∀ m ∈ modules, ∀ field ∈ m.stats.entries, StatEntry.Built field.2) →
      ∀ passive, (∃ icon, HasIcon modules passive icon) ∨ Lacks modules passive "Icon") := by
  refine ⟨fun name => ?_, fun _ _ _ => statField?_eq_some_iff, fun _ _ => statField?_eq_none_iff,
    fun feat => icon_cases modules feat.passives, fun built passive => ?_⟩
  · obtain ⟨passed, last, line, nodup, within, whole, ends⟩ := exists_leads modules name
    have bound := (nodup.subperm within).length_le
    rw [List.length_map] at bound
    exact ⟨passed, last, line, ends, nodup, bound, whole⟩
  · rw [or_iff_not_imp_right, ← statField?_eq_none_iff]
    intro found
    obtain ⟨values, inherits⟩ := Option.ne_none_iff_exists'.1 found
    rw [statField?_eq_some_iff] at inherits
    obtain ⟨some, nonempty⟩ := inherits.values_ne built
    cases values with
    | nil => exact absurd rfl some
    | cons icon more =>
      exact ⟨icon, fun empty => nonempty (empty ▸ List.mem_cons_self), more, inherits⟩

/-- The upper module leads round in a circle past the icon in the lower one. -/
theorem inheritance_resolves_circle :
    let shout : StatEntry := { name := "Shout", parent := some "Voice" }
    let voice : StatEntry := { name := "Voice", parent := some "Shout" }
    let upper : Module := { stats := .ofList [("Shout", shout), ("Voice", voice)] }
    let lower : Module := { stats := .ofList [("Voice", voice.add "Icon" "throat")] }
    (∀ m ∈ [upper, lower], ∀ field ∈ m.stats.entries, StatEntry.Built field.2) ∧
      ancestry [upper, lower] (statNames [upper, lower]) "Shout" = [shout, voice] ∧
      Lacks [upper, lower] "Shout" "Icon" := by
  intro shout voice upper lower
  have built : ∀ m ∈ [upper, lower], ∀ field ∈ m.stats.entries, StatEntry.Built field.2 := by
    rw [List.forall_mem_cons, List.forall_mem_singleton]
    constructor
    · exact List.forall_mem_cons.2 ⟨.new .., List.forall_mem_singleton.2 (.new ..)⟩
    · exact List.forall_mem_singleton.2 ((StatEntry.Built.new ..).add "Icon" "throat")
  have round : ancestry [upper, lower] (statNames [upper, lower]) "Shout" = [shout, voice] := by
    rw [ancestry, dif_pos (by decide)]
    change shout :: ancestry [upper, lower] ["Voice"] "Voice" = _
    rw [ancestry, dif_pos (by decide)]
    change shout :: voice :: ancestry [upper, lower] [] "Shout" = _
    rw [ancestry, dif_neg List.not_mem_nil]
  obtain ⟨_, resolves, _, _, fills⟩ := inheritance_resolves [upper, lower]
  refine ⟨built, round, (fills built "Shout").resolve_left ?_⟩
  rintro ⟨icon, _, more, inherits⟩
  rw [← resolves, statField?, round] at inherits
  cases inherits

end FeatLoom.Lookup
