import FeatLoom.Proofs.StatEntry.Recovery

/-!
# Stat files read back

What a written file says is what its entries held, as far as the separator allows. Values without a
semicolon come back as they were, and conditions come back as one conjunction. Where no semicolon
leaves an empty piece and no condition has one, the entries that come back are written like those
that were written.
-/

namespace FeatLoom.StatEntry

theorem written_of_ne {key : String} (other : key ≠ "RequirementConditions")
    {values : List String} (given : values ≠ []) :
    written key values =
      values.flatMap fun value => (value.toList.splitOn ';').map String.ofList := by
  have listed : values.map String.toList ≠ [] := fun none => given (List.map_eq_nil_iff.1 none)
  rw [written, separator, if_neg other, String.toList_intercalate]
  change ((([';'] : List Char).intercalate _).splitOn ';').map String.ofList = _
  rw [Text.splitOn_intercalate ';' listed, List.flatMap_map, List.map_flatMap]

theorem written_of_conditions {values : List String}
    (unseparated : ∀ value ∈ values, ';' ∉ value.toList) :
    written "RequirementConditions" values = [" and ".intercalate values] := by
  have joint : ∀ c ∈ " and ".toList, c ≠ ';' := by simp
  have absent : ∀ c ∈ (" and ".intercalate values).toList, c ≠ ';' :=
    Text.forall_mem_intercalate joint fun value member c inside same =>
      unseparated value member (same ▸ inside)
  rw [written, separator, if_pos rfl,
    List.splitOn_eq_singleton fun member => absent ';' member rfl, List.map_singleton,
    String.ofList_toList]

theorem pieces_of_unseparated {key : String} {values : List String} (given : values ≠ [])
    (noEmpty : "" ∉ values) (unseparated : ∀ value ∈ values, ';' ∉ value.toList) :
    pieces key values =
      if key = "RequirementConditions" then [" and ".intercalate values] else values := by
  rw [pieces]
  split
  · next same =>
    have joined : " and ".intercalate values ≠ "" := intercalate_ne given noEmpty
    rw [same, written_of_conditions unseparated, List.filter_cons_of_pos (by simpa),
      List.filter_nil]
  · next other =>
    have whole : ∀ value ∈ values, (value.toList.splitOn ';').map String.ofList = [value] := by
      intro value member
      rw [List.splitOn_eq_singleton (unseparated value member), List.map_singleton,
        String.ofList_toList]
    rw [written_of_ne other given, List.flatMap_congr whole, List.flatMap_singleton',
      List.filter_eq_self]
    intro value member
    exact decide_eq_true fun empty => noEmpty (empty ▸ member)

theorem intercalate_pieces {key : String} {values : List String} (given : values ≠ [])
    (noEmpty : "" ∉ values) (full : ∀ value ∈ values, [] ∉ value.toList.splitOn ';')
    (single : key = "RequirementConditions" → ∀ value ∈ values, ';' ∉ value.toList) :
    pieces key values ≠ [] ∧
      (separator key).intercalate (pieces key values) = (separator key).intercalate values := by
  by_cases same : key = "RequirementConditions"
  · rw [pieces_of_unseparated given noEmpty (single same), if_pos same, separator, if_pos same]
    exact ⟨List.cons_ne_nil _ _, String.intercalate_singleton⟩
  · have kept : pieces key values = written key values := by
      rw [pieces, List.filter_eq_self, written_of_ne same given]
      intro piece member
      obtain ⟨value, inValues, inPieces⟩ := List.mem_flatMap.1 member
      obtain ⟨characters, inSplit, rfl⟩ := List.mem_map.1 inPieces
      have some : characters ≠ [] := fun empty => full value inValues (empty ▸ inSplit)
      simpa using some
    rw [kept, written, separator, if_neg same]
    refine ⟨fun none => List.splitOn_ne_nil _ _ (List.map_eq_nil_iff.1 none), ?_⟩
    apply String.toList_injective
    rw [String.toList_intercalate, List.map_map]
    have plain : (String.toList ∘ String.ofList) = id := by
      funext characters
      exact String.toList_ofList
    rw [plain, List.map_id]
    exact List.intercalate_splitOn ';'

theorem data_recovered {entry : StatEntry}
    (kept : ∀ field ∈ entry.data.entries, pieces field.1 field.2 ≠ []) :
    entry.recovered.data = entry.data.mapValues pieces := by
  apply OrderedMap.ext
  refine List.filter_eq_self.2 fun field member => ?_
  obtain ⟨old, present, rfl⟩ := List.mem_map.1 member
  simpa using kept old present

theorem textLines_recovered {entry : StatEntry} (built : Built entry)
    (full : ∀ field ∈ entry.data.entries, ∀ value ∈ field.2, [] ∉ value.toList.splitOn ';')
    (single : ∀ field ∈ entry.data.entries, field.1 = "RequirementConditions" →
      ∀ value ∈ field.2, ';' ∉ value.toList) :
    entry.recovered.textLines = entry.textLines := by
  have parents : parentLines entry.recovered.parent = parentLines entry.parent := by
    change parentLines (entry.parent.filter (· ≠ "")) = _
    cases entry.parent with
    | none => rfl
    | some parent =>
      by_cases empty : parent = ""
      · subst empty
        rfl
      · rw [Option.filter_some, if_pos (by simpa)]
  have back (field : String × List String) (member : field ∈ entry.data.entries) :=
    intercalate_pieces (built.values_ne field member).1 (built.values_ne field member).2
      (full field member) (single field member)
  have fields : entry.recovered.data.entries.map dataLine = entry.data.entries.map dataLine := by
    rw [data_recovered fun field member => (back field member).1, OrderedMap.mapValues,
      List.map_map]
    apply List.map_congr_left
    intro field member
    change "data " ++ quote field.1 ++ " " ++ quote (_) = _
    rw [(back field member).2]
    rfl
  rw [textLines, textLines, parents, fields]
  rfl

/-- Every file of entries is read back as the recovered entries. Values without semicolons come
back unchanged, but conditions as one value; and what comes back is written as it was if no value
has an empty piece and no condition has a semicolon. -/
theorem readAll_fileText {entries : List StatEntry} (built : ∀ entry ∈ entries, Built entry)
    (writable : ∀ entry ∈ entries, IsWritable entry) :
    readAll (fileText entries).toList = entries.map recovered ∧
      ((∀ entry ∈ entries, ∀ field ∈ entry.data.entries, ∀ value ∈ field.2,
          ';' ∉ value.toList) →
        (readAll (fileText entries).toList).map StatEntry.data =
          entries.map fun entry => entry.data.mapValues fun key values =>
            if key = "RequirementConditions" then [" and ".intercalate values] else values) ∧
      ((∀ entry ∈ entries, ∀ field ∈ entry.data.entries, ∀ value ∈ field.2,
          [] ∉ value.toList.splitOn ';' ∧
            (field.1 = "RequirementConditions" → ';' ∉ value.toList)) →
        fileText (readAll (fileText entries).toList) = fileText entries) := by
  have back := readAll_eq_recovered built writable
  refine ⟨back, fun unseparated => ?_, fun full => ?_⟩
  · rw [back, List.map_map]
    apply List.map_congr_left
    intro entry member
    have same : ∀ field ∈ entry.data.entries, pieces field.1 field.2 =
        if field.1 = "RequirementConditions" then [" and ".intercalate field.2] else field.2 :=
      fun field inside => pieces_of_unseparated ((built entry member).values_ne field inside).1
        ((built entry member).values_ne field inside).2 (unseparated entry member field inside)
    have kept : ∀ field ∈ entry.data.entries, pieces field.1 field.2 ≠ [] := by
      intro field inside
      rw [same field inside]
      split
      · exact List.cons_ne_nil _ _
      · exact ((built entry member).values_ne field inside).1
    change entry.recovered.data = _
    rw [data_recovered kept]
    apply OrderedMap.ext
    apply List.map_congr_left
    intro field inside
    rw [same field inside]
  · rw [back, fileText, fileText, List.map_map]
    congr 1
    apply List.map_congr_left
    intro entry member
    have lines := textLines_recovered (built entry member)
      (fun field inside value present => (full entry member field inside value present).1)
      (fun field inside same value present => (full entry member field inside value present).2 same)
    change String.join (entry.recovered.textLines.map _) ++ _ = _
    rw [lines]
    rfl

theorem readAll_fileText_conditions :
    let shout := (({ name := "Shout", parent := some "" } : StatEntry).add "Icon" "alarm").extend
      "RequirementConditions" ["near", "", "far"]
    let text := (fileText [shout]).toList
    readAll text = [recovered shout] ∧
      (readAll text).map (fun entry => entry.data.entries) =
        [[("Icon", ["alarm"]), ("RequirementConditions", ["near and far"])]] ∧
      fileText (readAll text) = fileText [shout] := by
  intro shout text
  have made : Built shout := ((Built.new "Shout" "" (some "")).add "Icon" "alarm").extend _ _
  have built : ∀ entry ∈ [shout], Built entry := List.forall_mem_singleton.2 made
  have writable : ∀ entry ∈ [shout], IsWritable entry := List.forall_mem_singleton.2
    ⟨by decide, by decide, by decide, by decide, by decide, by decide, by decide⟩
  have ⟨back, data, same⟩ := readAll_fileText built writable
  have values := congrArg (List.map OrderedMap.entries) (data (by decide))
  rw [List.map_map] at values
  exact ⟨back, values, same (by decide)⟩

end FeatLoom.StatEntry
