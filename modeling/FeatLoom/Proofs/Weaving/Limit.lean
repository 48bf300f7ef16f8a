import FeatLoom.Proofs.Weaving.Record

/-!
# The limit only cuts off

Growth under one limit is compared with growth that does not reach its own limit. Where what grows
there has no more terminals than are allowed here, both are the same. Otherwise growth ends at the
first terminal beyond the allowance, and what has grown by then is what comes first there.
-/

namespace FeatLoom

namespace Record

variable {allowed : Nat} {short long : Record}

/-- A record that ends with the first terminal beyond an allowance. The last spell is not complete
then, so spells agree in module and name only. -/
structure IsCut (allowed : Nat) (short long : Record) : Prop where
  terminals_eq : short.terminals = long.terminals.take (allowed + 1)
  spellNames_prefix : short.spellNames <+: long.spellNames
  boosts_prefix : short.boosts <+: long.boosts

theorem IsCut.extend (cut : IsCut allowed short long) (beyond : allowed < long.terminals.length)
    (more : Record) : IsCut allowed short (long ++ more) where
  terminals_eq := by
    rw [terminals_append, List.take_append_of_le_length beyond]
    exact cut.terminals_eq
  spellNames_prefix := by
    rw [spellNames_append]
    exact cut.spellNames_prefix.trans (List.prefix_append _ _)
  boosts_prefix := by
    rw [boosts_append]
    exact cut.boosts_prefix.trans (List.prefix_append _ _)

theorem IsCut.prepend {first : Record} (fits : first.terminals.length ≤ allowed)
    (cut : IsCut (allowed - first.terminals.length) short long) :
    IsCut allowed (first ++ short) (first ++ long) where
  terminals_eq := by
    have all : first.terminals.take (allowed + 1) = first.terminals :=
      List.take_of_length_le (Nat.le_succ_of_le fits)
    rw [terminals_append, terminals_append, List.take_append, all, Nat.succ_sub fits,
      cut.terminals_eq]
  spellNames_prefix := by
    rw [spellNames_append, spellNames_append]
    exact (List.prefix_append_right_inj _).2 cut.spellNames_prefix
  boosts_prefix := by
    rw [boosts_append, boosts_append]
    exact (List.prefix_append_right_inj _).2 cut.boosts_prefix

end Record

namespace Weaving

def IsUnlimited (outcome : Except WeaveError Nat) : Prop :=
  ∀ limit feat, outcome ≠ .error (.limitExceeded limit feat)

inductive Curbed {α : Type} (limit : Int) (record : α → Record) (allowed : Nat)
    (short long : Growth α) : Prop
  | within (fits : (record long.1).terminals.length ≤ allowed) (grown : short.1 = long.1)
      (outcome : short.2 = long.2.map fun _ => allowed - (record long.1).terminals.length)
  | beyond (feat : Feat) (crossing : (record long.1).terminals[allowed]? = some feat)
      (fault : short.2 = .error (.limitExceeded limit feat.name))
      (cut : Record.IsCut allowed (record short.1) (record long.1))

namespace Curbed

variable {α β : Type} {limit : Int} {allowed : Nat}

/-- What ends in the same way without terminals is within every allowance. -/
theorem of_no_terminals {record : α → Record} {grown : α} {fault : WeaveError}
    (none : (record grown).terminals = []) :
    Curbed limit record allowed (grown, .error fault) (grown, .error fault) :=
  within (by simp [none]) rfl rfl

theorem map {record : α → Record} {other : β → Record} {f : α → β} {short long : Growth α}
    (opening : List (String × String))
    (terminals : ∀ grown, (other (f grown)).terminals = (record grown).terminals)
    (spellNames : ∀ grown, (other (f grown)).spellNames = opening ++ (record grown).spellNames)
    (boosts : ∀ grown, (other (f grown)).boosts = (record grown).boosts)
    (curbed : Curbed limit record allowed short long) :
    Curbed limit other allowed (f short.1, short.2) (f long.1, long.2) := by
  cases curbed with
  | within fits grown outcome =>
    rw [← terminals] at fits outcome
    exact within fits (congrArg f grown) outcome
  | beyond feat crossing fault cut =>
    refine beyond feat ?_ fault ⟨?_, ?_, ?_⟩
    · rw [terminals]
      exact crossing
    · rw [terminals, terminals]
      exact cut.terminals_eq
    · rw [spellNames, spellNames]
      exact (List.prefix_append_right_inj _).2 cut.spellNames_prefix
    · rw [boosts, boosts]
      exact cut.boosts_prefix

variable {record : β → Record}

theorem prepend {first : List β} {short long : Growth (List β)}
    (fits : (Record.terminals (first.flatMap record)).length ≤ allowed)
    (curbed : Curbed limit (fun trees => trees.flatMap record)
      (allowed - (Record.terminals (first.flatMap record)).length) short long) :
    Curbed limit (fun trees => trees.flatMap record) allowed (first ++ short.1, short.2)
      (first ++ long.1, long.2) := by
  cases curbed with
  | within fitsToo grown outcome =>
    refine within ?_ (congrArg (first ++ ·) grown) ?_
    · rw [List.flatMap_append, Record.terminals_append, List.length_append]
      omega
    · rw [outcome, List.flatMap_append, Record.terminals_append, List.length_append, Nat.sub_sub]
  | beyond feat crossing fault cut =>
    refine beyond feat ?_ fault ?_
    · rw [List.flatMap_append, Record.terminals_append, List.getElem?_append_right fits]
      exact crossing
    · rw [List.flatMap_append, List.flatMap_append]
      exact cut.prepend fits

end Curbed

theorem curbed_growEach {α β : Type} {limit : Int} {record : β → Record}
    {narrow wide : α → Nat → Growth (Option β)}
    (each : ∀ item allowed other, IsUnlimited (wide item other).2 →
      Curbed limit (fun grown => grown.toList.flatMap record) allowed (narrow item allowed)
        (wide item other))
    (items : List α) (allowed other : Nat) (unlimited : IsUnlimited (growEach wide items other).2) :
    Curbed limit (fun trees => trees.flatMap record) allowed (growEach narrow items allowed)
      (growEach wide items other) := by
  induction items generalizing allowed other with
  | nil => exact .within (Nat.zero_le _) rfl rfl
  | cons item items ih =>
    have first := each item allowed other
    unfold growEach at unlimited ⊢
    generalize wide item other = long at first unlimited ⊢
    generalize narrow item allowed = short at first ⊢
    obtain ⟨long, fault | left⟩ := long <;> obtain ⟨short, ended⟩ := short
    · cases first unlimited with
      | within fits grown outcome =>
        obtain rfl : short = long := grown
        obtain rfl : ended = .error fault := outcome
        exact .within fits rfl rfl
      | beyond feat crossing fault cut =>
        obtain rfl : ended = .error (.limitExceeded limit feat.name) := fault
        exact .beyond feat crossing rfl cut
    · have goesOn : IsUnlimited (.ok left) := fun _ _ same => by cases same
      cases first goesOn with
      | within fits grown outcome =>
        obtain rfl : short = long := grown
        obtain rfl := outcome
        exact (ih _ left unlimited).prepend fits
      | beyond feat crossing fault cut =>
        obtain rfl : ended = .error (.limitExceeded limit feat.name) := fault
        have counted := (List.getElem?_eq_some_iff.1 crossing).1
        refine .beyond feat ?_ rfl ?_
        · rw [List.flatMap_append, Record.terminals_append, List.getElem?_append_left counted]
          exact crossing
        · rw [List.flatMap_append]
          exact cut.extend counted _

/-! ## Trees -/

section Tree

variable {feat : Feat}

theorem record_branch (spell : ModuleSpell) (children : List Woven) :
    Woven.record feat (.branch spell children) =
      (feat, .branch spell children) :: children.flatMap (Woven.record feat) := by
  rw [Woven.record, Woven.nodes, Woven.nodesOf_eq_flatMap, List.map_cons, List.map_flatMap]
  rfl

theorem curbed_growLeaf (lower upper : Int) (site : Site) (allowed other : Nat)
    (unlimited : IsUnlimited (growLeaf feat upper site other).2) :
    Curbed lower (Woven.record feat) allowed (growLeaf feat lower site allowed)
      (growLeaf feat upper site other) := by
  cases other with
  | zero => exact absurd rfl (unlimited upper feat.name)
  | succ left =>
    cases allowed with
    | zero =>
      refine .beyond feat rfl rfl ⟨rfl, ?_, List.nil_prefix⟩
      have named : (site.endingSpell feat).entry.name = (site.applyingSpell feat).entry.name :=
        (StatEntry.name_add ..).symm
      change [(site.moduleName, (site.endingSpell feat).entry.name)] <+:
        [(site.moduleName, (site.applyingSpell feat).entry.name)]
      rewrite [named]
      exact List.prefix_rfl
    | succ allowed => exact .within (Nat.succ_le_succ (Nat.zero_le allowed)) rfl rfl

theorem curbed_deadEnd (lower upper : Int) (spell : ModuleSpell) (warning : Option String)
    (allowed other : Nat) (unlimited : IsUnlimited (count feat upper other)) :
    Curbed lower (Woven.record feat) allowed (.deadEnd spell warning, count feat lower allowed)
      (.deadEnd spell warning, count feat upper other) := by
  cases other with
  | zero => exact absurd rfl (unlimited upper feat.name)
  | succ left =>
    cases allowed with
    | zero => exact .beyond feat rfl rfl ⟨rfl, List.prefix_rfl, List.prefix_rfl⟩
    | succ allowed => exact .within (Nat.succ_le_succ (Nat.zero_le allowed)) rfl rfl

theorem curbed_branch {limit : Int} {allowed : Nat} {short long : Growth (List Woven)}
    (spell : ModuleSpell)
    (curbed : Curbed limit (fun trees => trees.flatMap (Woven.record feat)) allowed short long) :
    Curbed limit (Woven.record feat) allowed (.branch spell short.1, short.2)
      (.branch spell long.1, long.2) := by
  refine curbed.map [(spell.module, spell.entry.name)] ?_ ?_ ?_
  · intro children
    rw [record_branch]
    rfl
  · intro children
    rw [record_branch]
    rfl
  · intro children
    rw [record_branch]
    rfl

theorem curbed_grow (lower upper : Int) (depth : Nat) (site : Site) (allowed other : Nat)
    (unlimited : IsUnlimited (grow feat upper depth site other).2) :
    Curbed lower (Woven.record feat) allowed (grow feat lower depth site allowed)
      (grow feat upper depth site other) := by
  induction depth generalizing site allowed other with
  | zero => exact curbed_growLeaf lower upper site allowed other unlimited
  | succ depth ih =>
    have pick (supplier : Vantage) (kind : ListKind) (option : String × Expansion)
        (allowed other : Nat)
        (unlimited : IsUnlimited (growPick feat upper depth site supplier kind option other).2) :
        Curbed lower (fun grown => grown.toList.flatMap (Woven.record feat)) allowed
          (growPick feat lower depth site supplier kind option allowed)
          (growPick feat upper depth site supplier kind option other) := by
      rcases growPick_cases site supplier kind option with ⟨fault, -, ended⟩ | ⟨next, -, grows⟩
      · rw [ended, ended]
        exact .of_no_terminals rfl
      · rw [grows] at unlimited
        rw [grows, grows]
        have one (tree : Woven) : (some tree).toList.flatMap (Woven.record feat) =
            Woven.record feat tree := List.flatMap_singleton ..
        exact (ih next allowed other unlimited).map [] (fun tree => by rw [one])
          (fun tree => by rw [one, List.nil_append]) (fun tree => by rw [one])
    cases chosen : site.choice with
    | error fault =>
      simp only [grow, chosen]
      exact .of_no_terminals rfl
    | ok choice =>
      cases choice with
      | missing kind list =>
        simp only [grow, chosen] at unlimited ⊢
        exact curbed_deadEnd lower upper _ _ allowed other unlimited
      | picks supplier kind options =>
        by_cases pickable : options = []
        · subst pickable
          simp only [grow, chosen] at unlimited ⊢
          exact curbed_deadEnd lower upper _ _ allowed other unlimited
        · rw [grow_of_picks chosen pickable] at unlimited
          rw [grow_of_picks chosen pickable, grow_of_picks chosen pickable]
          exact curbed_branch _
            (curbed_growEach (pick supplier kind) options allowed other unlimited)

end Tree

end Weaving

/-! ## Runs -/

namespace Loom

open Weaving

variable {loom : Loom}

def withLimit (loom : Loom) (limit : Int) : Loom := { loom with limit }

theorem curbed_growLabelledRoot (lower : Int) (id : Guid) (vantage : Vantage)
    (allowed other : Nat) (unlimited : IsUnlimited (loom.growLabelledRoot id vantage other).2) :
    Curbed lower (fun grown => grown.toList.flatMap rootRecord) allowed
      ((loom.withLimit lower).growLabelledRoot id vantage allowed)
      (loom.growLabelledRoot id vantage other) := by
  cases defined : vantage.module.feat? id with
  | none =>
    simp only [growLabelledRoot, growRoot, defined]
    exact .within (Nat.zero_le allowed) rfl rfl
  | some feat =>
    simp only [growLabelledRoot, growRoot, defined] at unlimited ⊢
    by_cases supported : feat.isSupported
    · simp only [supported, if_true] at unlimited ⊢
      have tree (woven : Woven) :
          (some (feat, Root.woven woven)).toList.flatMap rootRecord = woven.record feat := by
        simp [rootRecord, Root.tree?]
      exact (curbed_grow lower loom.limit _ _ allowed other unlimited).map
        (f := fun woven => some (feat, Root.woven woven)) [] (fun woven => congrArg _ (tree woven))
        (fun woven => congrArg _ (tree woven)) (fun woven => congrArg _ (tree woven))
    · simp only [supported]
      exact .within (Nat.zero_le allowed) rfl rfl

theorem curbed_growLabelledAll (lower : Int) (allowed other : Nat)
    (unlimited : IsUnlimited (loom.growLabelledAll other).2) :
    Curbed lower (fun feats => feats.flatMap fun roots => roots.flatMap rootRecord) allowed
      ((loom.withLimit lower).growLabelledAll allowed) (loom.growLabelledAll other) := by
  refine curbed_growEach (fun id allowed other unlimited => ?_) loom.featIds allowed other unlimited
  have roots := curbed_growEach (curbed_growLabelledRoot lower id) (Vantage.all loom.modules)
    allowed other unlimited
  have one (roots : List (Feat × Root)) :
      (some roots).toList.flatMap (fun roots => roots.flatMap rootRecord) =
        roots.flatMap rootRecord := List.flatMap_singleton ..
  exact roots.map [] (fun roots => congrArg _ (one roots)) (fun roots => congrArg _ (one roots))
    (fun roots => congrArg _ (one roots))

theorem curbed_record (lower : Int)
    (unlimited : ∀ limit feat, (loom.weave {}).fault ≠ some (.limitExceeded limit feat)) :
    Curbed lower (fun feats => feats.flatMap fun roots => roots.flatMap rootRecord) lower.toNat
      ((loom.withLimit lower).growLabelledAll ((loom.withLimit lower).allowance {}))
      (loom.growLabelledAll (loom.allowance {})) := by
  have allowance : (loom.withLimit lower).allowance {} = lower.toNat :=
    congrArg Int.toNat (Int.sub_zero lower)
  rw [allowance]
  refine curbed_growLabelledAll lower lower.toNat _ fun limit feat exceeded => ?_
  refine unlimited limit feat ?_
  rw [weave, growAll_eq_labelled, exceeded]

theorem weave_withLimit_of_le {lower : Int}
    (unlimited : ∀ limit feat, (loom.weave {}).fault ≠ some (.limitExceeded limit feat))
    (enough : (loom.weave {}).fabric.terminals ≤ lower) :
    (loom.withLimit lower).weave {} = loom.weave {} := by
  rw [terminals_weave] at enough
  cases curbed_record lower unlimited with
  | within fits grown outcome =>
    rw [weave, weave, growAll_eq_labelled, growAll_eq_labelled, grown, outcome]
    cases (loom.growLabelledAll (loom.allowance {})).2 <;> rfl
  | beyond feat crossing fault cut =>
    have counted : lower.toNat < loom.record.terminals.length :=
      (List.getElem?_eq_some_iff.1 crossing).1
    omega

theorem weave_withLimit_of_lt {lower : Int} (nonneg : 0 ≤ lower)
    (unlimited : ∀ limit feat, (loom.weave {}).fault ≠ some (.limitExceeded limit feat))
    (beyond : lower < (loom.weave {}).fabric.terminals) :
    ∃ feat, loom.record.terminals[lower.toNat]? = some feat ∧
      ((loom.withLimit lower).weave {}).fault = some (.limitExceeded lower feat.name) ∧
      Record.IsCut lower.toNat (loom.withLimit lower).record loom.record := by
  rw [terminals_weave] at beyond
  cases curbed_record lower unlimited with
  | within fits grown outcome =>
    have counted : loom.record.terminals.length ≤ lower.toNat := fits
    omega
  | beyond feat crossing fault cut =>
    refine ⟨feat, crossing, ?_, cut⟩
    rw [weave, growAll_eq_labelled, fault]

end Loom

namespace Fabric

def spellsOf (fabric : Fabric) (module : String) : List StatEntry :=
  (fabric.spells.get? module).getD []

def boostsOf (fabric : Fabric) (module : String) : List StatEntry :=
  (fabric.boosts.get? module).getD []

end Fabric

namespace Loom

variable (loom : Loom) (module : String)

theorem names_spellsOf_weave :
    ((loom.weave {}).fabric.spellsOf module).map StatEntry.name =
      OrderedMap.itemsAt module loom.record.spellNames := by
  rw [Fabric.spellsOf, spells_weave, OrderedMap.getD_get?_appendAll, Record.spellNames]
  refine (OrderedMap.map_itemsAt StatEntry.name module _).trans ?_
  rw [List.map_map]
  rfl

theorem boostsOf_weave :
    (loom.weave {}).fabric.boostsOf module = OrderedMap.itemsAt module loom.record.boosts := by
  rw [Fabric.boostsOf, boosts_weave, OrderedMap.getD_get?_appendAll]
  rfl

/-- A limit only cuts off what comes after the first terminal beyond it. At no moment of a run are
more terminals counted than the limit allows and one. Next to a run that does not reach its limit, a
run under a limit that suffices is the same; any other ends at the first terminal beyond its limit,
names the feat of that terminal, and leaves of every module what comes first in the longer run. -/
theorem weave_withLimit (loom : Loom) (lower : Int) (nonneg : 0 ≤ lower) :
    (∀ moment : Record, moment <+: (loom.withLimit lower).record →
        (moment.terminals.length : Int) ≤ lower + 1) ∧
      ((∀ limit feat, (loom.weave {}).fault ≠ some (.limitExceeded limit feat)) →
        ((loom.weave {}).fabric.terminals ≤ lower →
            (loom.withLimit lower).weave {} = loom.weave {}) ∧
          (lower < (loom.weave {}).fabric.terminals →
            ((loom.withLimit lower).weave {}).fabric.terminals = lower + 1 ∧
              (∃ feat, loom.record.terminals[lower.toNat]? = some feat ∧
                ((loom.withLimit lower).weave {}).fault =
                  some (.limitExceeded lower feat.name)) ∧
              ∀ module,
                (((loom.withLimit lower).weave {}).fabric.spellsOf module).map StatEntry.name <+:
                    ((loom.weave {}).fabric.spellsOf module).map StatEntry.name ∧
                  ((loom.withLimit lower).weave {}).fabric.boostsOf module <+:
                    (loom.weave {}).fabric.boostsOf module)) := by
  refine ⟨?_, fun unlimited => ⟨weave_withLimit_of_le unlimited, fun beyond => ?_⟩⟩
  · rintro moment ⟨rest, whole⟩
    have counted := (loom.withLimit lower).terminals_weave_le
    rw [terminals_weave, ← whole, Record.terminals_append, List.length_append] at counted
    change _ ≤ lower.toNat + 1 at counted
    omega
  · obtain ⟨feat, crossing, fault, cut⟩ := weave_withLimit_of_lt nonneg unlimited beyond
    refine ⟨?_, ⟨feat, crossing, fault⟩, fun module => ?_⟩
    · rw [terminals_weave] at beyond ⊢
      rw [cut.terminals_eq, List.length_take]
      omega
    · rw [names_spellsOf_weave, names_spellsOf_weave, boostsOf_weave, boostsOf_weave]
      exact ⟨cut.spellNames_prefix.filterMap _, cut.boosts_prefix.filterMap _⟩

/-- The limit is crossed in the second of three feats; without it, the third ends the run. -/
theorem weave_withLimit_crossing :
    let list : OrderedMap Guid (List String) :=
      .ofList [(Guid.nil, ["Strength", "Wisdom"]), (Guid.ofNat 1, ["Charisma", "Luck"])]
    let choice (id : Guid) : Selector := .ability ⟨id, 1, 1, "Score"⟩
    let feats : List Feat :=
      [{ id := Guid.ofNat 1, name := "Gift", selectors := [choice Guid.nil] },
        { id := Guid.ofNat 2, name := "Boon" },
        { id := Guid.ofNat 3, name := "Whim", selectors := [choice (Guid.ofNat 1)] }]
    let main : Module := { name := some "Main", feats, lists := .ofList [(.ability, list)] }
    let loom : Loom := { modules := [main] }
    (0 : Int) ≤ 2 ∧ (loom.weave {}).fault = some (.unknownCandidate .ability "Luck") ∧
      (2 : Int) < (loom.weave {}).fabric.terminals ∧
      ((loom.withLimit 2).weave {}).fabric.terminals = (2 : Int) + 1 ∧
      ((loom.withLimit 2).weave {}).fault = some (.limitExceeded 2 "Boon") ∧
      (((loom.withLimit 2).weave {}).fabric.spellsOf "Main").map StatEntry.name <+:
        ((loom.weave {}).fabric.spellsOf "Main").map StatEntry.name := by
  intro list choice feats main loom
  have ended : (loom.weave {}).fault = some (.unknownCandidate .ability "Luck") := by decide
  have beyond : (2 : Int) < (loom.weave {}).fabric.terminals := by decide
  have nonneg : (0 : Int) ≤ 2 := by decide
  have unlimited : ∀ limit feat, (loom.weave {}).fault ≠ some (.limitExceeded limit feat) := by
    intro limit feat
    rw [ended]
    exact nofun
  obtain ⟨counted, ⟨feat, crossing, fault⟩, cut⟩ :=
    ((weave_withLimit loom 2 nonneg).2 unlimited).2 beyond
  have named : loom.record.terminals[(2 : Int).toNat]?.map Feat.name = some "Boon" := by decide
  rw [crossing] at named
  obtain named : feat.name = "Boon" := Option.some.inj named
  exact ⟨nonneg, ended, beyond, counted, named ▸ fault, (cut "Main").1⟩

end Loom

end FeatLoom
