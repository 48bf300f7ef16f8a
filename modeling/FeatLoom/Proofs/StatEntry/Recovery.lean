import FeatLoom.Proofs.StatEntry
import FeatLoom.Proofs.StatEntry.Lines

/-!
# What comes back from a stat file

An entry that is written and read keeps its name and type, and its parent unless that is empty.
Each key comes back with the pieces of its written values that are not empty.
-/

namespace FeatLoom

open Text (isLineBreak)

namespace StatEntry

/-! ## Entries that can be written -/

/-- The entries that come from a new one by adding values to keys. -/
inductive Built : StatEntry → Prop where
  | new (name entryType : String) (parent : Option String) : Built { name, entryType, parent }
  | extend {entry : StatEntry} (built : Built entry) (key : String) (values : List String) :
      Built (entry.extend key values)

theorem Built.add {entry : StatEntry} (built : Built entry) (key value : String) :
    Built (entry.add key value) := built.extend key [value]

theorem Built.values_ne {entry : StatEntry} (built : Built entry) :
    ∀ field ∈ entry.data.entries, field.2 ≠ [] ∧ "" ∉ field.2 := by
  induction built with
  | new name entryType parent => exact fun field member => absurd member List.not_mem_nil
  | @extend entry built key values ih =>
    unfold StatEntry.extend
    split
    · exact ih
    · next added given =>
      have addedSome : "" ∉ values.filter (· ≠ "") := by simp
      intro field member
      rw [← OrderedMap.get?_eq_some_iff, OrderedMap.get?_alter] at member
      split at member
      · next same =>
        have grown : (entry.data.get? key).getD [] ++ values.filter (· ≠ "") = field.2 :=
          Option.some.inj member
        have old : "" ∉ (entry.data.get? key).getD [] := by
          cases present : entry.data.get? key with
          | none => exact List.not_mem_nil
          | some old => exact (ih (key, old) ((OrderedMap.get?_eq_some_iff ..).1 present)).2
        rw [← grown]
        refine ⟨fun none => given ?_, ?_⟩
        · exact (List.append_eq_nil_iff.1 none).2
        · rw [List.mem_append, not_or]
          exact ⟨old, addedSome⟩
      · exact ih field ((OrderedMap.get?_eq_some_iff ..).1 member)

/-- Names and keys are there, and all texts can be quoted on a line. -/
structure IsWritable (entry : StatEntry) : Prop where
  name_ne : entry.name ≠ ""
  name : IsPlain entry.name
  entryType : IsPlain entry.entryType
  parent : ∀ parent ∈ entry.parent, IsPlain parent
  key_ne : ∀ field ∈ entry.data.entries, field.1 ≠ ""
  key : ∀ field ∈ entry.data.entries, IsPlain field.1
  values : ∀ field ∈ entry.data.entries, ∀ value ∈ field.2, IsPlain value

theorem IsWritable.joined {entry : StatEntry} (writable : IsWritable entry)
    {field : String × List String} (member : field ∈ entry.data.entries) :
    IsPlain ((separator field.1).intercalate field.2) := by
  have joint : IsPlain (separator field.1) := by
    unfold separator
    split <;> decide
  exact Text.forall_mem_intercalate joint (writable.values field member)

/-! ## What reading an entry gives -/

def written (key : String) (values : List String) : List String :=
  (((separator key).intercalate values).toList.splitOn ';').map String.ofList

def pieces (key : String) (values : List String) : List String :=
  (written key values).filter (· ≠ "")

def recovered (entry : StatEntry) : StatEntry where
  name := entry.name
  entryType := entry.entryType
  parent := entry.parent.filter (· ≠ "")
  data := (entry.data.mapValues pieces).filter fun _ values => !values.isEmpty

def bodyLines (entry : StatEntry) : List StatLine :=
  [if entry.entryType = "" then .other else .entryType entry.entryType] ++
    ((entry.parent.filter (· ≠ "")).map StatLine.parent).toList ++
    (entry.data.entries.map fun field => .data field.1 (written field.1 field.2)) ++ [.other]

theorem isHeader_bodyLines (entry : StatEntry) :
    ∀ line ∈ entry.bodyLines, line.isHeader = false := by
  intro line member
  simp only [bodyLines, List.mem_append, List.mem_singleton, Option.mem_toList,
    Option.map_eq_some_iff, List.mem_map] at member
  obtain ((rfl | ⟨_, _, rfl⟩) | ⟨_, _, rfl⟩) | rfl := member
  · split <;> rfl
  all_goals rfl

theorem intercalate_ne {between : String} {values : List String} (some : values ≠ [])
    (noEmpty : "" ∉ values) : between.intercalate values ≠ "" := by
  cases values with
  | nil => exact absurd rfl some
  | cons value values =>
    have first : value ≠ "" := fun empty => noEmpty (empty ▸ List.mem_cons_self)
    cases values with
    | nil => rwa [String.intercalate_singleton]
    | cons next others =>
      rw [String.intercalate_cons_cons]
      intro empty
      simp only [String.append_eq_empty_iff] at empty
      exact first empty.1.1

theorem read_dataLine {entry : StatEntry} (built : Built entry) (writable : IsWritable entry)
    {field : String × List String} (member : field ∈ entry.data.entries) :
    StatLine.read (dataLine field).toList = .data field.1 (written field.1 field.2) := by
  obtain ⟨given, noEmpty⟩ := built.values_ne field member
  exact StatLine.read_data (writable.key_ne field member) (writable.key field member)
    (intercalate_ne given noEmpty) (writable.joined member)

theorem read_parentLines {parent : Option String} (plain : ∀ name ∈ parent, IsPlain name) :
    (parentLines parent).map (fun line => StatLine.read line.toList) =
      ((parent.filter (· ≠ "")).map StatLine.parent).toList := by
  cases parent with
  | none => rfl
  | some name =>
    by_cases empty : name = ""
    · subst empty
      rfl
    · rw [parentLines, if_neg empty, List.map_singleton,
        StatLine.read_parent empty (plain name rfl), Option.filter_some, if_pos (by simpa)]
      rfl

/-- The lines of an entry, with the empty line after them, say what the entry is. -/
theorem read_textLines {entry : StatEntry} (built : Built entry) (writable : IsWritable entry) :
    (entry.textLines ++ [""]).map (fun line => StatLine.read line.toList) =
      .header entry.name :: entry.bodyLines := by
  have fields : (entry.data.entries.map dataLine).map (fun line => StatLine.read line.toList) =
      entry.data.entries.map fun field => .data field.1 (written field.1 field.2) := by
    rw [List.map_map]
    exact List.map_congr_left fun field member => read_dataLine built writable member
  simp only [textLines, List.map_append, List.map_cons, List.map_nil, fields,
    StatLine.read_header writable.name_ne writable.name, StatLine.read_entryType writable.entryType,
    read_parentLines writable.parent]
  rfl

/-! ## Folding the lines of an entry -/

theorem extend_eq_of_fresh {entry : StatEntry} {key : String} (fresh : key ∉ entry.data.keys)
    (values : List String) :
    let grown := entry.extend key values
    grown.name = entry.name ∧ grown.entryType = entry.entryType ∧ grown.parent = entry.parent ∧
      grown.data.entries = entry.data.entries ++
        [(key, values.filter (· ≠ ""))].filter fun field => !field.2.isEmpty := by
  unfold extend
  split
  · next none => rw [none]; exact ⟨rfl, rfl, rfl, (List.append_nil _).symm⟩
  · next given =>
    refine ⟨rfl, rfl, rfl, ?_⟩
    rw [OrderedMap.entries_alter_of_fresh fresh, List.filter_cons_of_pos (by simpa using given)]
    rfl

theorem foldl_extend_fresh {entry : StatEntry} (empty : entry.data = OrderedMap.empty)
    {fields : List (String × List String)} (distinct : (fields.map Prod.fst).Nodup) :
    let filled := fields.foldl (fun grown field => grown.extend field.1 field.2) entry
    filled.name = entry.name ∧ filled.entryType = entry.entryType ∧
      filled.parent = entry.parent ∧
      filled.data.entries = (fields.map fun field => (field.1, field.2.filter (· ≠ ""))).filter
        fun field => !field.2.isEmpty := by
  induction fields using List.reverseRecOn with
  | nil => exact ⟨rfl, rfl, rfl, congrArg OrderedMap.entries empty⟩
  | append_singleton fields field ih =>
    rw [List.map_append] at distinct
    obtain ⟨name, entryType, parent, data⟩ := ih distinct.of_append_left
    rw [List.foldl_append, List.foldl_cons, List.foldl_nil]
    set filled := fields.foldl (fun grown field => grown.extend field.1 field.2) entry
    have fresh : field.1 ∉ filled.data.keys := by
      intro member
      rw [OrderedMap.keys, data] at member
      obtain ⟨_, kept, same⟩ := List.mem_map.1 member
      obtain ⟨other, old, rfl⟩ := List.mem_map.1 (List.mem_of_mem_filter kept)
      have there : field.1 ∈ fields.map Prod.fst := List.mem_map.2 ⟨other, old, same⟩
      exact List.disjoint_of_nodup_append distinct there (List.mem_singleton_self _)
    obtain ⟨sameName, sameType, sameParent, grown⟩ := extend_eq_of_fresh fresh field.2
    refine ⟨sameName.trans name, sameType.trans entryType, sameParent.trans parent, ?_⟩
    rw [grown, data, List.map_append, List.filter_append]
    rfl

theorem eq_of_fields {a b : StatEntry} (name : a.name = b.name)
    (entryType : a.entryType = b.entryType) (parent : a.parent = b.parent)
    (data : a.data.entries = b.data.entries) : a = b := by
  cases a
  cases b
  cases name
  cases entryType
  cases parent
  cases OrderedMap.ext data
  rfl

theorem foldl_bodyLines (entry : StatEntry) :
    entry.bodyLines.foldl StatLine.apply { name := entry.name } = entry.recovered := by
  let bare : StatEntry :=
    { name := entry.name, entryType := entry.entryType, parent := entry.parent.filter (· ≠ "") }
  have typed : StatLine.apply { name := entry.name }
      (if entry.entryType = "" then .other else .entryType entry.entryType) =
        { name := entry.name, entryType := entry.entryType } := by
    split
    · next empty => rw [empty]; rfl
    · rfl
  have opened (parent : Option String) : (parent.map StatLine.parent).toList.foldl StatLine.apply
      { name := entry.name, entryType := entry.entryType } =
        { name := entry.name, entryType := entry.entryType, parent } := by
    cases parent <;> rfl
  let fields := entry.data.entries.map fun field => (field.1, written field.1 field.2)
  have distinct : (fields.map Prod.fst).Nodup := (entry.data.mapValues written).nodup
  obtain ⟨name, entryType, parent, data⟩ := foldl_extend_fresh (rfl : bare.data = .empty) distinct
  have folded : entry.bodyLines.foldl StatLine.apply { name := entry.name } =
      fields.foldl (fun grown field => grown.extend field.1 field.2) bare := by
    rw [bodyLines, List.foldl_append, List.foldl_append, List.foldl_append, List.foldl_map,
      List.foldl_map]
    simp only [List.foldl_cons, List.foldl_nil, typed, opened]
    rfl
  rw [folded]
  refine eq_of_fields name entryType parent (data.trans ?_)
  rw [List.map_map]
  rfl

/-! ## Reading a file -/

theorem ofLines_append_of_body {body : List StatLine}
    (noHeader : ∀ line ∈ body, line.isHeader = false) (rest : List StatLine) :
    ofLines (body ++ rest) = ofLines rest := by
  induction body with
  | nil => rfl
  | cons line body ih =>
    rw [List.forall_mem_cons] at noHeader
    rw [List.cons_append, ← ih noHeader.2]
    cases line with
    | header name => exact absurd noHeader.1 Bool.true_eq_false.mp
    | parent | entryType | data | other => rfl

theorem ofLines_groups (entries : List StatEntry) :
    ofLines (entries.flatMap fun entry => .header entry.name :: entry.bodyLines) =
      entries.map recovered := by
  induction entries with
  | nil => rfl
  | cons entry entries ih =>
    have noHeader := entry.isHeader_bodyLines
    have inside : ∀ line ∈ entry.bodyLines, (!line.isHeader) = true := fun line member => by
      rw [noHeader line member]
      rfl
    have after : (entries.flatMap fun entry => .header entry.name :: entry.bodyLines).takeWhile
        (fun line => !line.isHeader) = [] := by
      cases entries <;> rfl
    rw [List.flatMap_cons, List.cons_append, ofLines, List.takeWhile_append_of_pos inside, after,
      List.append_nil, foldl_bodyLines, ofLines_append_of_body noHeader, ih, List.map_cons]

theorem toList_fileText (entries : List StatEntry) : (fileText entries).toList =
    (entries.flatMap fun entry => (entry.textLines ++ [""]).map String.toList).flatMap
      (· ++ ['\n']) := by
  simp [fileText, toText, String.toList_join, List.flatMap_assoc, List.flatMap_map]

theorem unbroken_textLines {entry : StatEntry} (writable : IsWritable entry) :
    ∀ line ∈ entry.textLines ++ [""], IsUnbroken line := by
  intro line member
  simp only [textLines, List.mem_append, List.mem_cons, List.not_mem_nil, or_false,
    List.mem_map] at member
  obtain (((rfl | rfl) | inParent) | ⟨field, inData, rfl⟩) | rfl := member
  · exact .append (by decide) writable.name.unbroken_quote
  · exact .append (by decide) writable.entryType.unbroken_quote
  · cases named : entry.parent with
    | none => exact absurd inParent (by simp [named, parentLines])
    | some parent =>
      rw [named, parentLines] at inParent
      split at inParent
      · exact absurd inParent List.not_mem_nil
      · rw [List.mem_singleton] at inParent
        subst inParent
        exact .append (by decide) (writable.parent parent named).unbroken_quote
  · have key := (writable.key field inData).unbroken_quote
    have values := (writable.joined inData).unbroken_quote
    exact .append (.append (.append (by decide) key) (by decide)) values
  · exact fun c member => absurd member List.not_mem_nil

theorem readAll_eq_recovered {entries : List StatEntry} (built : ∀ entry ∈ entries, Built entry)
    (writable : ∀ entry ∈ entries, IsWritable entry) :
    readAll (fileText entries).toList = entries.map recovered := by
  have unbroken : ∀ row ∈ entries.flatMap fun entry =>
      (entry.textLines ++ [""]).map String.toList, ∀ c ∈ row, isLineBreak c = false := by
    intro row member
    obtain ⟨entry, inEntries, inRows⟩ := List.mem_flatMap.1 member
    obtain ⟨line, inLines, rfl⟩ := List.mem_map.1 inRows
    exact unbroken_textLines (writable entry inEntries) line inLines
  have said : (entries.flatMap fun entry => (entry.textLines ++ [""]).map String.toList).map
      StatLine.read = entries.flatMap fun entry => .header entry.name :: entry.bodyLines := by
    rw [List.map_flatMap]
    apply List.flatMap_congr
    intro entry member
    rw [List.map_map]
    exact read_textLines (built entry member) (writable entry member)
  rw [readAll, toList_fileText, Text.lines_flatMap unbroken, said, ofLines_groups]

end StatEntry

end FeatLoom
