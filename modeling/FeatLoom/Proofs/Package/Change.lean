import FeatLoom.Package.Reader

/-!
# What a file changes

A file calls for a list of steps, in the order of its nodes. Each step is a change to the snapshot,
or the fault that is found in its place. Reading the file makes the changes one by one up to the
first fault, and the changes already made stay.
-/

namespace FeatLoom

theorem exists_ok_of_bind {ε α β : Type} {first : Except ε α} {next : α → Except ε β} {result : β}
    (ok : first >>= next = .ok result) : ∃ value, first = .ok value ∧ next value = .ok result := by
  cases first with
  | error fault => cases ok
  | ok value => exact ⟨value, rfl, ok⟩

inductive Change where
  | setId (id : Guid)
  | setName (name : String)
  | setVersion (version : Version)
  | addDependency (dependency : ModuleId)
  | addFeat (feat : Feat)
  | setDescription (description : FeatDescription)
  | openCategory (kind : ListKind)
  | setList (kind : ListKind) (id : Guid) (candidates : List String)
  | setStat (entry : StatEntry)
  deriving DecidableEq

namespace Change

def apply (m : Module) : Change → Module
  | setId id => { m with id }
  | setName name => { m with name := some name }
  | setVersion version => { m with version }
  | addDependency dependency => { m with dependencies := m.dependencies ++ [dependency] }
  | addFeat feat => { m with feats := m.feats ++ [feat] }
  | setDescription description =>
    { m with descriptions := m.descriptions.insert description.feat description }
  | openCategory kind => { m with lists := m.lists.ensure kind OrderedMap.empty }
  | setList kind id candidates =>
    { m with lists := m.lists.alter kind fun present =>
        (present.getD OrderedMap.empty).insert id candidates }
  | setStat entry => { m with stats := m.stats.insert entry.name entry }

def applyAll (m : Module) (changes : List Change) : Module := changes.foldl apply m

theorem applyAll_append (m : Module) (first second : List Change) :
    applyAll m (first ++ second) = applyAll (applyAll m first) second :=
  List.foldl_append

end Change

/-- A change, or the fault in its place. -/
abbrev Step := Except ReadError Change

namespace Step

def fault? : List Step → Option ReadError
  | [] => none
  | .error fault :: _ => some fault
  | .ok _ :: rest => fault? rest

def made : List Step → List Change
  | [] => []
  | .error _ :: _ => []
  | .ok change :: rest => change :: made rest

def after {α : Type} (first : Except ReadError α) (steps : α → List Step) : List Step :=
  match first with
  | .error fault => [.error fault]
  | .ok value => steps value

/-! ## The steps of a file -/

/-- A dependency that is not valid is passed over. -/
def ofDependency (node : Resource.Node) : List Step :=
  after (ModuleId.ofNode node) fun dependency =>
    if dependency.isValid then [.ok (.addDependency dependency)] else []

def ofInfo (config info : Resource.Node) : List Step :=
  after (info.requireGuid "UUID") fun id => .ok (.setId id) ::
    after (info.require "Name") fun name => .ok (.setName name) ::
      after (info.requireInteger "Version64") fun version => .ok (.setVersion ⟨version⟩) ::
        if ModuleId.isValid { id, name := some name, version := ⟨version⟩ } then
          (((config.childrenNamed "Dependencies").take 1).flatMap fun group =>
            group.childrenNamed "ModuleShortDesc").flatMap ofDependency
        else []

def ofIdentity (resource : Resource) : List Step :=
  match resource.region? "Config" with
  | none => [.error (.missingRegion "Config")]
  | some config =>
    match (config.childrenNamed "ModuleInfo").head? with
    | none => [.error (.missingChild "ModuleInfo")]
    | some info => ofInfo config info

def ofFeats (resource : Resource) : List Step :=
  (resource.region? "Feats").toList.flatMap fun region =>
    (region.childrenNamed "Feat").map fun node => (Feat.ofNode node).map .addFeat

def ofDescriptions (resource : Resource) : List Step :=
  (resource.region? "FeatDescriptions").toList.flatMap fun region =>
    (region.childrenNamed "FeatDescription").map fun node =>
      (FeatDescription.ofNode node).map .setDescription

def ofList (kind : ListKind) (node : Resource.Node) : List Step :=
  after (node.require (Reading.listLayout kind).items) fun text =>
    [(node.requireGuid "UUID").map fun id => .setList kind id (Reading.candidatesOf text)]

/-- A category is there from its region on, and each of its lists comes after it. -/
def ofLists (resource : Resource) : List Step :=
  ListKind.all.flatMap fun kind =>
    (resource.region? (Reading.listLayout kind).region).toList.flatMap fun region =>
      .ok (.openCategory kind) ::
        (region.childrenNamed (Reading.listLayout kind).node).flatMap (ofList kind)

def ofStats (bytes : ByteArray) : List Step :=
  (StatEntry.readAll (Text.decodeUtf8 bytes)).map fun entry => .ok (.setStat entry)

def ofFile [Nesting] (role : FileRole) (bytes : ByteArray) : List Step :=
  match role with
  | .identity => after (Resource.read bytes) ofIdentity
  | .feats => after (Resource.read bytes) ofFeats
  | .descriptions => after (Resource.read bytes) ofDescriptions
  | .lists => after (Resource.read bytes) ofLists
  | .stats => ofStats bytes
  | .other => []

/-! ## Changes before a fault -/

theorem fault?_append (first second : List Step) :
    fault? (first ++ second) = (fault? first).or (fault? second) := by
  induction first with
  | nil => rfl
  | cons step rest ih => cases step with
    | error fault => rfl
    | ok change => exact ih

theorem made_append_of_fault {first : List Step} {fault : ReadError}
    (faulty : fault? first = some fault) (second : List Step) :
    made (first ++ second) = made first := by
  induction first with
  | nil => cases faulty
  | cons step rest ih => cases step with
    | error fault => rfl
    | ok change => exact congrArg (change :: ·) (ih faulty)

theorem made_append_of_faultless {first : List Step} (faultless : fault? first = none)
    (second : List Step) : made (first ++ second) = made first ++ made second := by
  induction first with
  | nil => rfl
  | cons step rest ih => cases step with
    | error fault => cases faultless
    | ok change => exact congrArg (change :: ·) (ih faultless)

theorem fault?_map_ok (changes : List Change) : fault? (changes.map .ok) = none := by
  induction changes with
  | nil => rfl
  | cons change changes ih => exact ih

theorem made_map_ok_append (changes : List Change) (steps : List Step) :
    made (changes.map .ok ++ steps) = changes ++ made steps := by
  induction changes with
  | nil => rfl
  | cons change changes ih => exact congrArg (change :: ·) ih

theorem made_map_ok (changes : List Change) : made (changes.map .ok) = changes := by
  have whole := made_map_ok_append changes []
  rwa [made, List.append_nil, List.append_nil] at whole

/-- Steps with a fault begin with the changes made, and go on with the fault. -/
theorem eq_made_append_of_fault {steps : List Step} {fault : ReadError}
    (faulty : fault? steps = some fault) :
    ∃ rest, steps = (made steps).map .ok ++ .error fault :: rest := by
  induction steps with
  | nil => cases faulty
  | cons step rest ih => cases step with
    | error first =>
      obtain rfl : first = fault := Option.some.inj faulty
      exact ⟨rest, rfl⟩
    | ok change =>
      obtain ⟨later, whole⟩ := ih faulty
      exact ⟨later, congrArg (Except.ok change :: ·) whole⟩

theorem eq_made_of_faultless {steps : List Step} (faultless : fault? steps = none) :
    steps = (made steps).map .ok := by
  induction steps with
  | nil => rfl
  | cons step rest ih => cases step with
    | error fault => cases faultless
    | ok change => exact congrArg (Except.ok change :: ·) (ih faultless)

end Step

namespace Reading

open Step

/-- From a snapshot on, a reading makes the changes of some steps up to the first fault. -/
def PerformsFrom (m : Module) (reading : Reading Unit) (steps : List Step) : Prop :=
  reading.outcome m = (fault? steps, Change.applyAll m (made steps))

def Performs (reading : Reading Unit) (steps : List Step) : Prop :=
  ∀ m, PerformsFrom m reading steps

theorem performsFrom_after {α : Type} {m : Module} (first : Except ReadError α)
    {next : α → Reading Unit} {steps : α → List Step}
    (performs : ∀ value, PerformsFrom m (next value) (steps value)) :
    PerformsFrom m (ofExcept first >>= next) (after first steps) := by
  cases first with
  | error fault => rfl
  | ok value => exact performs value

theorem performsFrom_change {m : Module} (change : Change) {next : Reading Unit}
    {steps : List Step} (performs : PerformsFrom (change.apply m) next steps) :
    PerformsFrom m (modify (fun m => change.apply m) >>= fun _ => next) (.ok change :: steps) :=
  performs

theorem outcome_bind (reading next : Reading Unit) (m : Module) :
    (reading >>= fun _ => next).outcome m =
      match reading.outcome m with
      | (none, changed) => next.outcome changed
      | (some fault, changed) => (some fault, changed) := by
  have run : (reading >>= fun _ => next).run.run m =
      ExceptT.bindCont (fun _ => next) (reading.run.run m).1 (reading.run.run m).2 := rfl
  rw [outcome, outcome, run]
  rcases reading.run.run m with ⟨_ | _, changed⟩ <;> rfl

theorem Performs.bind {reading next : Reading Unit} {first second : List Step}
    (performs : Performs reading first) (performsNext : Performs next second) :
    Performs (reading >>= fun _ => next) (first ++ second) := by
  intro m
  rw [PerformsFrom, outcome_bind, performs m, fault?_append]
  cases faulty : fault? first with
  | some fault =>
    rw [made_append_of_fault faulty]
    rfl
  | none =>
    rw [made_append_of_faultless faulty, Change.applyAll_append]
    exact performsNext _

theorem performs_forM {α : Type} {reading : α → Reading Unit} {steps : α → List Step}
    (performs : ∀ item, Performs (reading item) (steps item)) (items : List α) :
    Performs (items.forM reading) (items.flatMap steps) := by
  induction items with
  | nil => exact fun _ => rfl
  | cons item items ih => exact (performs item).bind ih

theorem performs_change {α : Type} (first : Except ReadError α) (change : α → Change) :
    Performs (ofExcept first >>= fun value => modify fun m => (change value).apply m)
      [first.map change] := by
  cases first <;> exact fun _ => rfl

/-! ## Files -/

theorem performs_dependency (node : Resource.Node) :
    Performs (do
        let dependency ← ofExcept (ModuleId.ofNode node)
        if dependency.isValid then
          modify fun m => { m with dependencies := m.dependencies ++ [dependency] })
      (ofDependency node) := by
  refine fun m => performsFrom_after _ fun dependency => ?_
  split <;> rfl

theorem performs_identity (resource : Resource) :
    Performs (identity resource) (ofIdentity resource) := by
  intro m
  unfold identity ofIdentity
  cases resource.region? "Config" with
  | none => rfl
  | some config =>
    dsimp only
    cases (config.childrenNamed "ModuleInfo").head? with
    | none => rfl
    | some info =>
      refine performsFrom_after _ fun id => performsFrom_change (.setId id) ?_
      refine performsFrom_after _ fun name => performsFrom_change (.setName name) ?_
      refine performsFrom_after _ fun version => performsFrom_change (.setVersion ⟨version⟩) ?_
      let named : Module := { m with id, name := some name, version := ⟨version⟩ }
      change PerformsFrom named (if named.isValid then _ else _) (if named.isValid then _ else _)
      split
      · exact performs_forM performs_dependency _ named
      · rfl

theorem performs_feats (resource : Resource) : Performs (feats resource) (ofFeats resource) := by
  unfold feats ofFeats
  cases resource.region? "Feats" with
  | none => exact fun _ => rfl
  | some region =>
    rw [Option.toList_some, List.flatMap_singleton, List.map_eq_flatMap]
    exact performs_forM (fun node => performs_change (Feat.ofNode node) .addFeat) _

theorem performs_descriptions (resource : Resource) :
    Performs (descriptions resource) (ofDescriptions resource) := by
  unfold descriptions ofDescriptions
  cases resource.region? "FeatDescriptions" with
  | none => exact fun _ => rfl
  | some region =>
    rw [Option.toList_some, List.flatMap_singleton, List.map_eq_flatMap]
    exact performs_forM
      (fun node => performs_change (FeatDescription.ofNode node) .setDescription) _

theorem performs_list (kind : ListKind) (node : Resource.Node) :
    Performs (list kind node) (ofList kind node) := by
  refine fun m => performsFrom_after _ fun text => ?_
  exact performs_change (node.requireGuid "UUID")
    (fun id => .setList kind id (candidatesOf text)) m

theorem performs_lists (resource : Resource) : Performs (lists resource) (ofLists resource) := by
  refine performs_forM (fun kind m => ?_) ListKind.all
  cases resource.region? (listLayout kind).region with
  | none => rfl
  | some region =>
    rw [Option.toList_some, List.flatMap_singleton]
    exact performsFrom_change (.openCategory kind) (performs_forM (performs_list kind) _ _)

theorem performs_stats (bytes : ByteArray) : Performs (stats bytes) (ofStats bytes) := by
  intro m
  unfold stats ofStats
  generalize StatEntry.readAll (Text.decodeUtf8 bytes) = entries
  induction entries generalizing m with
  | nil => rfl
  | cons entry entries ih => exact ih ((Change.setStat entry).apply m)

theorem performs_file [Nesting] (role : FileRole) (bytes : ByteArray) :
    Performs (file role bytes) (ofFile role bytes) := by
  intro m
  cases role with
  | identity => exact performsFrom_after _ fun resource => performs_identity resource m
  | feats => exact performsFrom_after _ fun resource => performs_feats resource m
  | descriptions => exact performsFrom_after _ fun resource => performs_descriptions resource m
  | lists => exact performsFrom_after _ fun resource => performs_lists resource m
  | stats => exact performs_stats bytes m
  | other => rfl

end Reading

end FeatLoom
